/-
This file models `web_fetch_guard.py`. A fetch is a chain of hops: each one parses its URL, has its
host resolved, and sends one request to an address of that answer, until a response is no redirect.
The resolver and the servers may answer each hop as they like. `urllib.parse` is taken as it comes,
and so is `is_global`, which differs across Python releases.
-/

import LocalGpuCluster.IpAddress
import LocalGpuCluster.Json

namespace LocalGpuCluster

namespace WebFetch

/-! ### What the guard calls -/

/-- The result of `urlparse`. -/
structure ParseResult where
  scheme : Text
  netloc : Text
  path : Text
  params : Text
  query : Text
  fragment : Text

/-- The library functions that are taken as they come; the text of an error is its message. -/
structure Library where
  urlparse : Text → Except Text ParseResult
  /-- `.hostname` of a netloc. -/
  hostname : Text → Option Text
  /-- `.port` of a netloc. -/
  port : Text → Except Text (Option ℕ)
  /-- `urljoin`, `none` for `ValueError`. -/
  urljoin : Text → Text → Option Text
  /-- `str.lower`. -/
  lower : Text → Text
  /-- `ip.is_global`. -/
  isGlobal : Ip → Bool

/-- How something awaited ends when it gives no result: with an exception, or at the deadline, as
which a `TimeoutError` counts too. -/
inductive Abort where
  | raised
  | deadline
  deriving DecidableEq, Repr

/-- What resolving a host gives. -/
inductive Resolved where
  | answer (addresses : List Text)
  /-- An `OSError` or `UnicodeError`, by the name of its type. -/
  | unresolved (name : Text)
  | abort (reason : Abort)

/-- A response: `header` is `headers.get`, `chunks` what `aiter_raw` gives. The stream ends well or
not, and so does `aclose`. -/
structure Response where
  statusCode : ℤ
  header : Text → Option Text
  chunks : List (List UInt8)
  streamEnd : Option Abort
  close : Option Abort

/-- A GET request as the client is asked to send it. -/
structure Request where
  url : Text
  headers : List (Text × Text)
  sniHostname : Option Text

/-- The resolver and the servers, for each hop of the fetch. -/
structure World where
  resolve : ℕ → Text → ℕ → Resolved
  send : ℕ → Request → Except Abort Response

/-- The arguments of `guarded_get`; the redirects a client would follow itself are `client`'s. -/
structure Config where
  headers : List (Text × Text)
  maxBytes : ℕ
  maxRedirects : ℕ
  totalTimeout : Float64
  followRedirects : Bool

/-! ### Addresses -/

/-- `DENY_HOSTS`. -/
def denyHosts : List Text :=
  ["169.254.169.254", "metadata.google.internal", "metadata", "169.254.170.2",
    "localhost", "127.0.0.1", "::1", "0.0.0.0"].map text

/-- `BLOCKED_NETS`. -/
def blockedNets : List (Ip × ℕ) :=
  [("0.0.0.0", 8), ("10.0.0.0", 8), ("100.64.0.0", 10), ("127.0.0.0", 8), ("169.254.0.0", 16),
    ("172.16.0.0", 12), ("192.0.0.0", 24), ("192.0.2.0", 24), ("192.88.99.0", 24),
    ("192.168.0.0", 16), ("198.18.0.0", 15), ("198.51.100.0", 24), ("203.0.113.0", 24),
    ("224.0.0.0", 4), ("240.0.0.0", 4), ("255.255.255.255", 32), ("::", 128), ("::1", 128),
    ("::ffff:0:0", 96), ("64:ff9b::", 96), ("64:ff9b:1::", 48), ("100::", 64), ("2001::", 32),
    ("2001:db8::", 32), ("2002::", 16), ("fc00::", 7), ("fe80::", 10), ("fec0::", 10),
    ("ff00::", 8)].filterMap fun net => (Ip.ofText (text net.1)).map (·, net.2)

example : blockedNets.length = 29 := by decide

def inBlockedNets (ip : Ip) : Bool := blockedNets.any fun net => ip.inNetwork net.1 net.2

/-- `_is_public`. The address inside a mapped one maps to none itself. -/
def isPublic (isGlobal : Ip → Bool) (ip : Ip) : Bool :=
  !inBlockedNets ip &&
    (ip.ipv4Mapped.all fun mapped => !inBlockedNets (.v4 mapped) && isGlobal (.v4 mapped)) &&
    isGlobal ip

/-- `ip_address(addr_str.split("%", 1)[0])`. -/
def addressOf (content : Text) : Option Ip := Ip.ofText (content.takeWhile (· ≠ 0x25))

/-! ### A hop -/

/-- Why a fetch ends without a page: with an answer of its own, or as the awaited end. -/
inductive Halt where
  | answer (fields : List (Text × Json))
  | abort (reason : Abort)

/-- `{"error": kind, **fields}`. -/
def failure (kind : String) (fields : List (Text × Json)) : Halt :=
  .answer ((text "error", .str (text kind)) :: fields)

/-- What `check_target` returns for a URL that may be requested. -/
structure Target where
  parsed : ParseResult
  host : Text
  ip : Ip

section Hop

variable (library : Library) (resolve : Text → ℕ → Resolved)

/-- `(parsed.hostname or "").lower()`. -/
def hostOf (parsed : ParseResult) : Text :=
  library.lower ((library.hostname parsed.netloc).getD [])

/-- `parsed.port or (443 if parsed.scheme == "https" else 80)`. -/
def portOf (parsed : ParseResult) (port : Option ℕ) : ℕ :=
  (port.filter (· ≠ 0)).getD (if parsed.scheme = text "https" then 443 else 80)

/-- `addrs`: a literal IP is checked as it is, any other host is resolved. -/
def addresses (host : Text) (port : ℕ) : Except Halt (List Text) :=
  if (Ip.ofText host).isSome then .ok [host]
  else
    match resolve host port with
    | .answer found => .ok found
    | .unresolved name => .error (failure "dns_resolution_failed" [(text "message", .str name)])
    | .abort reason => .error (.abort reason)

/-- The loop over `addrs`, which returns at the first that is not public. -/
def vet (host : Text) : List Text → Except Halt (List Ip)
  | [] => .ok []
  | address :: rest =>
      match addressOf address with
      | none => .error (failure "host_denied_unparseable_ip"
          [(text "host", .str host), (text "addr", .str address)])
      | some ip =>
          if isPublic library.isGlobal ip then (vet host rest).map (ip :: ·)
          else .error (failure "host_denied_private_range"
            [(text "host", .str host), (text "resolved", .str address)])

/-- The part of `check_target` that resolves. Nothing is vetted when nothing was answered. -/
def checkHost (parsed : ParseResult) (host : Text) (port : ℕ) : Except Halt Target := do
  let found ← addresses resolve host port
  match ← vet library host found with
  | [] => throw (failure "dns_resolution_failed" [(text "message", .str (text "no addresses"))])
  | ip :: _ => pure ⟨parsed, host, ip⟩

/-- `check_target`. -/
def checkTarget (url : Text) : Except Halt Target :=
  match library.urlparse url with
  | .error message => .error (failure "invalid_url" [(text "message", .str message)])
  | .ok parsed =>
      match library.port parsed.netloc with
      | .error message => .error (failure "invalid_url" [(text "message", .str message)])
      | .ok port =>
          let host := hostOf library parsed
          if parsed.scheme ≠ text "http" ∧ parsed.scheme ≠ text "https" then
            .error (failure "scheme_not_allowed" [(text "scheme", .str parsed.scheme)])
          else if host = [] then .error (failure "missing_host" [])
          else if host ∈ denyHosts then
            .error (failure "host_denied" [(text "host", .str host)])
          else checkHost library resolve parsed host (portOf parsed port)

/-- `f":{parsed.port}" if parsed.port else ""`. -/
def portSuffix (parsed : ParseResult) : Text :=
  match library.port parsed.netloc with
  | .ok (some (port + 1)) => text ":" ++ decimal (port + 1)
  | _ => []

/-- The address as a netloc has it. -/
def ipText : Ip → Text
  | .v4 value => Ip.v4Text value
  | .v6 value => text "[" ++ Ip.v6Text value ++ text "]"

/-- `urlunparse`, of a result with a scheme and a netloc. -/
def urlunparse (parsed : ParseResult) : Text :=
  let path := if parsed.params = [] then parsed.path else parsed.path ++ text ";" ++ parsed.params
  let path := if path = [] ∨ path.head? = some 0x2F then path else text "/" ++ path
  parsed.scheme ++ text "://" ++ parsed.netloc ++ path ++
    (if parsed.query = [] then [] else text "?" ++ parsed.query) ++
    (if parsed.fragment = [] then [] else text "#" ++ parsed.fragment)

/-- `_pinned`, and the request made of it. -/
def pinned (headers : List (Text × Text)) (target : Target) : Request where
  url := urlunparse
    { target.parsed with netloc := ipText target.ip ++ portSuffix library target.parsed }
  headers :=
    Json.setIn (Json.setIn headers (text "Host") (target.host ++ portSuffix library target.parsed))
      (text "Accept-Encoding") (text "identity")
  sniHostname := if target.parsed.scheme = text "https" then some target.host else none

end Hop

/-! ### The response -/

/-- `REDIRECT_STATUSES`. -/
def redirectStatuses : List ℤ := [301, 302, 303, 307, 308]

/-- The location of a response that redirects. -/
def redirectOf (response : Response) : Option Text :=
  if response.statusCode ∈ redirectStatuses then
    (response.header (text "location")).filter (· ≠ [])
  else none

structure Page where
  status : ℤ
  url : Text
  contentType : Text
  contentLength : ℕ
  truncated : Bool
  body : Text

/-- The loop over the chunks, with the body read so far. It stops one byte past the limit, and
then does not meet the end of the stream. -/
def readBody (maxBytes : ℕ) (streamEnd : Option Abort) (body : List UInt8) :
    List (List UInt8) → Except Abort (List UInt8 × Bool)
  | [] =>
      match streamEnd with
      | none => .ok (body, false)
      | some reason => .error reason
  | chunk :: rest =>
      let longer := body ++ chunk.take (maxBytes + 1 - body.length)
      if maxBytes < longer.length then .ok (longer, true)
      else readBody maxBytes streamEnd longer rest

/-- What becomes of a response that does not redirect. -/
def readPage (library : Library) (maxBytes : ℕ) (url : Text) (response : Response) :
    Except Halt Page :=
  let encoding := library.lower (Text.strip CodePoint.isSpace
    ((response.header (text "content-encoding")).getD (text "identity")))
  if encoding ≠ [] ∧ encoding ≠ text "identity" then
    .error (failure "content_encoding_not_supported" [(text "content_encoding", .str encoding)])
  else
    match readBody maxBytes response.streamEnd [] response.chunks with
    | .error reason => .error (.abort reason)
    | .ok (body, truncated) =>
        .ok {
          status := response.statusCode
          url := url
          contentType := (response.header (text "content-type")).getD []
          contentLength := (body.take maxBytes).length
          truncated := truncated
          body := Text.decodeUtf8 (body.take maxBytes) }

/-! ### The fetch -/

/-- The requests sent, in order, and how the fetch ends. -/
structure Run where
  requests : List Request
  result : Except Halt Page

/-- The loop of `_fetch`, from a hop on. A failing `aclose` takes the place of what would have
been returned. -/
def fetchFrom (library : Library) (world : World) (config : Config) : ℕ → ℕ → Text → Run
  | 0, _, _ =>
      ⟨[], .error (failure "too_many_redirects" [(text "max_redirects", .int config.maxRedirects)])⟩
  | remaining + 1, hop, current =>
      match checkTarget library (world.resolve hop) current with
      | .error halt => ⟨[], .error halt⟩
      | .ok target =>
          let request := pinned library config.headers target
          match world.send hop request with
          | .error reason => ⟨[request], .error (.abort reason)⟩
          | .ok response =>
              match response.close with
              | some reason => ⟨[request], .error (.abort reason)⟩
              | none =>
                  match redirectOf response with
                  | none => ⟨[request], readPage library config.maxBytes current response⟩
                  | some location =>
                      match library.urljoin current location with
                      | none => ⟨[request], .error (.abort .raised)⟩
                      | some next =>
                          let rest := fetchFrom library world config remaining (hop + 1) next
                          ⟨request :: rest.requests, rest.result⟩

/-- What the caller of `guarded_get` gets. -/
inductive Outcome where
  | page (page : Page)
  | error (fields : List (Text × Json))
  | raised

/-- `guarded_get`: the requests it sends, and what it returns. -/
def guardedGet (library : Library) (world : World) (config : Config) (url : Json) :
    List Request × Outcome :=
  if config.followRedirects then ([], .raised)
  else
    match url with
    | .str start =>
        if Text.strip CodePoint.isSpace start = [] then
          ([], .error [(text "error", .str (text "missing 'url' field"))])
        else
          let run := fetchFrom library world config (config.maxRedirects + 1) 0 start
          match run.result with
          | .ok page => (run.requests, .page page)
          | .error (.answer fields) => (run.requests, .error fields)
          | .error (.abort .deadline) =>
              (run.requests, .error [(text "error", .str (text "timeout")),
                (text "seconds", .float config.totalTimeout)])
          | .error (.abort .raised) => (run.requests, .raised)
    | _ => ([], .error [(text "error", .str (text "missing 'url' field"))])

end WebFetch

end LocalGpuCluster
