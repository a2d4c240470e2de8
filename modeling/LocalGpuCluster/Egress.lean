/-
This file models `agent_runner_egress.py`: the table that says which TCP endpoints the sandbox of each
repository may reach, and the nftables script made from it. A line of the table names a repository,
the user its agent runs as, and its endpoints.
-/

import LocalGpuCluster.IpAddress
import LocalGpuCluster.Text

namespace LocalGpuCluster

namespace Egress

/-- An address as it is written, and a port. -/
abbrev Endpoint := Text × ℕ

/-- `ROUTER`. -/
def router : Endpoint := (text "192.168.6.153", 8000)

structure Entry where
  user : Text
  endpoints : List Endpoint
  deriving DecidableEq, Repr

/-- The entries by repository, in the order of their lines. -/
abbrev Table := List (Text × Entry)

/-- `ValueError`, with the line and what the message quotes. -/
inductive ParseError where
  | needRepoUser (line : ℕ)
  | badRepo (line : ℕ) (repo : Text)
  | badUser (line : ℕ) (user : Text)
  | listedTwice (line : ℕ) (repo : Text)
  | sharedUser (line : ℕ) (user : Text)
  | badEndpoint (line : ℕ) (endpoint : Text)
  /-- Raised by `IPv4Address`. -/
  | badAddress (address : Text)
  /-- Raised by `int` for more digits than it takes. -/
  | tooManyDigits (digits : Text)
  | portOutOfRange (line : ℕ) (port : ℕ)
  deriving DecidableEq, Repr

/-! ### Patterns -/

/-- What comes before `$`: a line feed at the end is not looked at. -/
def beforeDollar (content : Text) : Text :=
  if content.getLast? = some 0xA then content.dropLast else content

def isDigit (point : CodePoint) : Bool := 0x30 ≤ point.val && point.val ≤ 0x39

def isLower (point : CodePoint) : Bool := 0x61 ≤ point.val && point.val ≤ 0x7A

def isUpper (point : CodePoint) : Bool := 0x41 ≤ point.val && point.val ≤ 0x5A

/-- `[A-Za-z0-9._-]`. -/
def isRepoPoint (point : CodePoint) : Bool :=
  isUpper point || isLower point || isDigit point || [0x2E, 0x5F, 0x2D].contains point.val

/-- `_REPO`. -/
def isRepo (repo : Text) : Bool := beforeDollar repo ≠ [] && (beforeDollar repo).all isRepoPoint

/-- `_USER`. -/
def isUser (user : Text) : Bool :=
  let name := (beforeDollar user).drop 6
  Text.startsWith user (text "agent-") && name ≠ [] && name.all fun point =>
    isLower point || isDigit point

/-- `[0-9.]`. -/
def isAddressPoint (point : CodePoint) : Bool := isDigit point || point = 0x2E

/-- The value of a decimal digit of any script. -/
def digitValue (point : CodePoint) : ℕ :=
  (CodePoint.digitRuns.find? fun first => first ≤ point.val && point.val < first + 10).elim 0
    (point.val - ·)

/-- `int` of decimal digits. -/
def intOf (digits : Text) : ℕ := digits.foldl (fun number point => number * 10 + digitValue point) 0

/-- How many digits `int` takes. -/
def maxStrDigits : ℕ := 4300

/-! ### The table -/

/-- An endpoint of a line: `^([0-9.]+):(\d+)$`, an address and a port. -/
def endpointOf (line : ℕ) (endpoint : Text) : Except ParseError Endpoint :=
  let address := endpoint.takeWhile (· ≠ 0x3A)
  let digits := beforeDollar (endpoint.drop (address.length + 1))
  if endpoint.contains 0x3A && address ≠ [] && address.all isAddressPoint && digits ≠ [] &&
      digits.all CodePoint.isDecimal then
    match Ip.v4Of address with
    | none => .error (.badAddress address)
    | some value =>
        if maxStrDigits < digits.length then .error (.tooManyDigits digits)
        else if 1 ≤ intOf digits && intOf digits ≤ 65535 then .ok (Ip.v4Text value, intOf digits)
        else .error (.portOutOfRange line (intOf digits))
  else .error (.badEndpoint line endpoint)

/-- A line up to its comment. -/
def contentOf (raw : Text) : Text := Text.strip CodePoint.isSpace (raw.takeWhile (· ≠ 0x23))

/-- One turn of the loop of `parse`. -/
def parseLine (table : Table) (row : Text × ℕ) : Except ParseError Table :=
  if contentOf row.1 = [] then .ok table
  else
    match Text.words (contentOf row.1) with
    | repo :: user :: endpoints =>
        if isRepo repo = false then .error (.badRepo row.2 repo)
        else if isUser user = false then .error (.badUser row.2 user)
        else if repo ∈ table.map (·.1) then .error (.listedTwice row.2 repo)
        else if user ∈ table.map (·.2.user) then .error (.sharedUser row.2 user)
        else
          (endpoints.mapM (endpointOf row.2)).map fun endpoints => table ++ [(repo, ⟨user, endpoints⟩)]
    | _ => .error (.needRepoUser row.2)

/-- The lines, numbered from one. -/
def rowsOf (content : Text) : List (Text × ℕ) := (Text.splitLines content).zipIdx 1

/-- `parse`. -/
def parse (content : Text) : Except ParseError Table := (rowsOf content).foldlM parseLine []

/-- `ip_allow`, `none` for `KeyError`. -/
def ipAllow (table : Table) (repo : Text) : Option (List Text) :=
  (table.lookup repo).map fun entry =>
    entry.endpoints.foldl (fun ips endpoint => if endpoint.1 ∈ ips then ips else ips ++ [endpoint.1])
      [text "127.0.0.1", text "::1", router.1]

/-! ### The script -/

/-- The line for one endpoint of a repository. -/
def acceptLine (uid : ℕ) (repo : Text) (endpoint : Endpoint) : Text :=
  text "    meta skuid " ++ decimal uid ++ text " ip daddr " ++ endpoint.1 ++ text " tcp dport " ++
    decimal endpoint.2 ++ text " accept  # " ++ repo

/-- `lines` of `render_nft`. -/
def nftLines (table : Table) (uidOf : Text → ℕ) : List Text :=
  let allUids := Text.join (text ", ") (table.map fun row => decimal (uidOf row.2.user))
  [text "# generated by agent_runner_egress.py from egress.conf -- do not edit",
    text "table inet agent_egress",
    text "delete table inet agent_egress",
    text "table inet agent_egress \x7b",
    text "  chain output \x7b",
    text "    type filter hook output priority filter; policy accept;",
    text "    meta skuid \x7b " ++ allUids ++ text " \x7d jump agent_out",
    text "  \x7d",
    text "  chain agent_out \x7b",
    text "    oifname \"lo\" ip daddr 127.0.0.1 accept",
    text "    oifname \"lo\" ip6 daddr ::1 accept",
    text "    ct state established,related accept",
    text "    ip daddr " ++ router.1 ++ text " tcp dport " ++ decimal router.2 ++ text " accept"] ++
  (table.flatMap fun row => row.2.endpoints.map (acceptLine (uidOf row.2.user) row.1)) ++
  [text "    reject with icmpx admin-prohibited",
    text "  \x7d",
    text "\x7d"]

/-- `render_nft`. -/
def renderNft (table : Table) (uidOf : Text → ℕ) : Text :=
  Text.join newline (nftLines table uidOf) ++ newline

end Egress

end LocalGpuCluster
