/-
This file proves that a fetch is confined to public addresses. Each hop is vetted against the
answer that this hop's resolver gave, and the request it sends names an address of that answer, so
what the resolver says later does not matter. The chain goes on from a vetted hop only, and each
hop sends one request at most.
-/

import LocalGpuCluster.WebFetch

namespace LocalGpuCluster

namespace WebFetch

section Hop

variable (library : Library) (resolve : Text → ℕ → Resolved)

/-! ### What a hop may send -/

/-- The addresses a hop's host stands for: itself when it is one, and else what is answered. -/
inductive Answered (parsed : ParseResult) : List Text → Prop where
  | literal (isLiteral : (Ip.ofText (hostOf library parsed)).isSome) :
      Answered parsed [hostOf library parsed]
  | resolved {port : Option ℕ} {found : List Text}
      (isName : (Ip.ofText (hostOf library parsed)).isSome = false)
      (hasPort : library.port parsed.netloc = .ok port)
      (answer : resolve (hostOf library parsed) (portOf parsed port) = .answer found) :
      Answered parsed found

/-- An address of an answer reads as this one, and passes `_is_public`. -/
def Passes (address : Text) (ip : Ip) : Prop :=
  addressOf address = some ip ∧ isPublic library.isGlobal ip = true

/-- The authority of a URL with this scheme. -/
def ConnectsTo (url scheme authority : Text) : Prop :=
  ∃ rest, url = scheme ++ text "://" ++ authority ++ rest ∧
    ∀ point, rest.head? = some point → point ∈ text "/?#"

/-- A URL that `check_target` has to refuse: its host is denied, or an address it stands for is
not public. -/
def Refused (url : Text) : Prop :=
  ∃ parsed, library.urlparse url = .ok parsed ∧
    (hostOf library parsed ∈ denyHosts ∨
      ∃ found, Answered library resolve parsed found ∧
        ∃ address ∈ found, ∀ ip, ¬ Passes library address ip)

/-- What is known of a request when it is sent. -/
structure Vetted (url : Text) (request : Request) (parsed : ParseResult) (found : List Text)
    (ip : Ip) : Prop where
  parses : library.urlparse url = .ok parsed
  scheme : parsed.scheme = text "http" ∨ parsed.scheme = text "https"
  allowed : hostOf library parsed ∉ denyHosts
  answered : Answered library resolve parsed found
  passes : ∀ address ∈ found, ∃ passed, Passes library address passed
  member : ∃ address ∈ found, Passes library address ip
  connects : ConnectsTo request.url parsed.scheme (ipText ip ++ portSuffix library parsed)
  host : request.headers.lookup (text "Host") =
    some (hostOf library parsed ++ portSuffix library parsed)
  serverName : request.sniHostname =
    if parsed.scheme = text "https" then some (hostOf library parsed) else none

variable {library resolve}

theorem Answered.unique {parsed : ParseResult} {first second : List Text}
    (left : Answered library resolve parsed first) (right : Answered library resolve parsed second) :
    first = second := by
  cases left with
  | literal isLiteral =>
    cases right with
    | literal _ => rfl
    | resolved isName _ _ => exact absurd (isLiteral.symm.trans isName) Bool.noConfusion
  | resolved isName hasPort answer =>
    cases right with
    | literal isLiteral => exact absurd (isLiteral.symm.trans isName) Bool.noConfusion
    | resolved _ otherPort otherAnswer =>
      cases hasPort.symm.trans otherPort
      cases answer.symm.trans otherAnswer
      rfl

/-- A vetted URL is not one to refuse. -/
theorem Vetted.not_refused {url : Text} {request : Request} {parsed : ParseResult}
    {found : List Text} {ip : Ip} (vetted : Vetted library resolve url request parsed found ip) :
    ¬ Refused library resolve url := by
  rintro ⟨other, parses, isDenied | ⟨others, answered, address, member, fails⟩⟩
  · cases vetted.parses.symm.trans parses
    exact vetted.allowed isDenied
  · cases vetted.parses.symm.trans parses
    rw [← vetted.answered.unique answered] at member
    obtain ⟨passed, passes⟩ := vetted.passes address member
    exact fails passed passes

/-! ### What `check_target` lets through -/

theorem answered_of_addresses {parsed : ParseResult} {port : Option ℕ} {found : List Text}
    (hasPort : library.port parsed.netloc = .ok port)
    (got : addresses resolve (hostOf library parsed) (portOf parsed port) = .ok found) :
    Answered library resolve parsed found := by
  unfold addresses at got
  split at got
  · rename_i isLiteral
    cases got
    exact .literal isLiteral
  · rename_i isName
    split at got
    · rename_i answer
      cases got
      exact .resolved (Bool.eq_false_iff.mpr isName) hasPort answer
    · cases got
    · cases got

/-- The loop vets every address. -/
theorem forall₂_of_vet {host : Text} {found : List Text} {vetted : List Ip}
    (got : vet library host found = .ok vetted) : List.Forall₂ (Passes library) found vetted := by
  induction found generalizing vetted with
  | nil =>
    cases got
    exact .nil
  | cons address rest inductionHypothesis =>
    unfold vet at got
    split at got
    · cases got
    · rename_i ip reads
      split at got
      · rename_i isPublic
        cases tail : vet library host rest with
        | error halt =>
          rw [tail] at got
          cases got
        | ok others =>
          rw [tail] at got
          cases got
          exact .cons ⟨reads, isPublic⟩ (inductionHypothesis tail)
      · cases got

theorem Passes.of_forall₂ {found : List Text} {vetted : List Ip}
    (passes : List.Forall₂ (Passes library) found vetted) {address : Text} (member : address ∈ found) :
    ∃ ip, Passes library address ip := by
  induction passes with
  | nil => exact absurd member List.not_mem_nil
  | cons head _ inductionHypothesis =>
    obtain rfl | later := List.mem_cons.mp member
    · exact ⟨_, head⟩
    · exact inductionHypothesis later

/-- The target is the first vetted address. -/
theorem checkHost_ok {parsed : ParseResult} {host : Text} {port : ℕ} {target : Target}
    (got : checkHost library resolve parsed host port = .ok target) :
    ∃ found others, addresses resolve host port = .ok found ∧
      List.Forall₂ (Passes library) found (target.ip :: others) ∧
      target.parsed = parsed ∧ target.host = host := by
  unfold checkHost at got
  cases asked : addresses resolve host port with
  | error halt =>
    rw [asked] at got
    cases got
  | ok found =>
    rw [asked] at got
    cases checked : vet library host found with
    | error halt =>
      simp only [bind, Except.bind, checked] at got
      cases got
    | ok vetted =>
      simp only [bind, Except.bind, checked] at got
      cases vetted with
      | nil => cases got
      | cons ip others =>
        cases got
        exact ⟨found, others, rfl, forall₂_of_vet checked, rfl, rfl⟩

/-- What follows the netloc of an unparsed URL starts a path, a query or a fragment. -/
theorem connectsTo_urlunparse (parsed : ParseResult) :
    ConnectsTo (urlunparse parsed) parsed.scheme parsed.netloc := by
  unfold urlunparse ConnectsTo
  simp only [List.append_assoc]
  refine ⟨_, rfl, ?_⟩
  generalize (if parsed.params = [] then parsed.path
    else parsed.path ++ (text ";" ++ parsed.params)) = path
  intro point
  cases path with
  | cons first rest =>
    split
    · rename_i leads
      have isSlash : first = 0x2F :=
        Option.some.inj (leads.resolve_left (List.cons_ne_nil first rest))
      rintro ⟨⟩
      rw [isSlash]
      decide
    · rintro ⟨⟩
      decide
  | nil =>
    rw [if_pos (Or.inl rfl), List.nil_append]
    by_cases noQuery : parsed.query = []
    · rw [if_pos noQuery, List.nil_append]
      by_cases noFragment : parsed.fragment = []
      · rw [if_pos noFragment]
        rintro ⟨⟩
      · rw [if_neg noFragment]
        rintro ⟨⟩
        decide
    · rw [if_neg noQuery]
      rintro ⟨⟩
      decide

theorem host_pinned (headers : List (Text × Text)) (target : Target) :
    (pinned library headers target).headers.lookup (text "Host") =
      some (target.host ++ portSuffix library target.parsed) := by
  show (Json.setIn (Json.setIn headers _ _) _ _).lookup (text "Host") = _
  rw [Json.lookup_setIn_of_ne (by decide), Json.lookup_setIn_self]

/-- The request made of a checked target is vetted. -/
theorem vetted_of_checkTarget {url : Text} {target : Target} (headers : List (Text × Text))
    (got : checkTarget library resolve url = .ok target) :
    ∃ found, Vetted library resolve url (pinned library headers target) target.parsed found
      target.ip := by
  unfold checkTarget at got
  cases parses : library.urlparse url with
  | error message =>
    rw [parses] at got
    cases got
  | ok parsed =>
    cases hasPort : library.port parsed.netloc with
    | error message =>
      simp only [parses, hasPort] at got
      cases got
    | ok port =>
      simp only [parses, hasPort] at got
      split at got
      · cases got
      · rename_i isHttp
        split at got
        · cases got
        · split at got
          · cases got
          · rename_i allowed
            obtain ⟨found, others, asked, passes, rfl, hostEq⟩ := checkHost_ok got
            refine ⟨found, parses, ?_, allowed, answered_of_addresses hasPort asked, ?_, ?_,
              connectsTo_urlunparse _, ?_, ?_⟩
            · by_contra neither
              exact isHttp (not_or.mp neither)
            · exact fun address member => Passes.of_forall₂ passes member
            · cases passes with
              | cons head _ => exact ⟨_, List.mem_cons_self, head⟩
            · rw [host_pinned, hostEq]
            · rw [← hostEq]
              rfl

end Hop

/-! ### The body -/

/-- Everything a response's stream delivers. -/
def Response.bytes (response : Response) : List UInt8 := response.chunks.flatten

/-- A page holds the response up to the limit, and says whether that is all. -/
structure Capped (maxBytes : ℕ) (response : Response) (page : Page) : Prop where
  body : page.body = Text.decodeUtf8 (response.bytes.take maxBytes)
  contentLength : page.contentLength = (response.bytes.take maxBytes).length
  atMost : page.contentLength ≤ maxBytes
  truncated : page.truncated = true ↔ maxBytes < response.bytes.length

/-- While the body is within the limit the loop has kept all of the stream, and it stops at the
first chunk that takes it over. -/
theorem readBody_ok {maxBytes : ℕ} {streamEnd : Option Abort} {body out : List UInt8}
    {chunks : List (List UInt8)} {truncated : Bool} (within : body.length ≤ maxBytes)
    (got : readBody maxBytes streamEnd body chunks = .ok (out, truncated)) :
    out.take maxBytes = (body ++ chunks.flatten).take maxBytes ∧
      (truncated = true ↔ maxBytes < (body ++ chunks.flatten).length) := by
  induction chunks generalizing body with
  | nil =>
    rw [List.flatten_nil, List.append_nil]
    cases streamEnd with
    | some reason => cases got
    | none =>
      cases got
      exact ⟨rfl, iff_of_false Bool.false_ne_true (Nat.not_lt.mpr within)⟩
  | cons chunk rest inductionHypothesis =>
    rw [List.flatten_cons, ← List.append_assoc]
    unfold readBody at got
    dsimp only at got
    split at got
    · rename_i exceeds
      cases got
      rw [List.length_append, List.length_take] at exceeds
      have chunkOver : maxBytes + 1 ≤ (body ++ chunk).length := by
        rw [List.length_append]
        omega
      have kept : (body ++ chunk).take (maxBytes + 1) =
          body ++ chunk.take (maxBytes + 1 - body.length) := by
        rw [List.take_append, List.take_of_length_le (Nat.le_succ_of_le within)]
      refine ⟨?_, iff_of_true rfl ?_⟩
      · rw [← kept, List.take_take, Nat.min_eq_left (Nat.le_succ maxBytes),
          List.take_append_of_le_length (Nat.le_of_succ_le chunkOver)]
      · rw [List.length_append]
        omega
    · rename_i fits
      rw [List.length_append, List.length_take] at fits
      have whole : chunk.take (maxBytes + 1 - body.length) = chunk :=
        List.take_of_length_le (by omega)
      rw [whole] at got
      exact inductionHypothesis (by rw [List.length_append]; omega) got

theorem capped_of_readPage {library : Library} {maxBytes : ℕ} {url : Text} {response : Response}
    {page : Page} (got : readPage library maxBytes url response = .ok page) :
    Capped maxBytes response page := by
  unfold readPage at got
  dsimp only at got
  split at got
  · cases got
  · split at got
    · cases got
    · rename_i body truncated read
      obtain ⟨kept, more⟩ := readBody_ok (Nat.zero_le maxBytes) read
      rw [List.nil_append] at kept more
      cases got
      exact ⟨congrArg Text.decodeUtf8 kept, congrArg List.length kept, List.length_take_le _ _, more⟩

/-! ### The chain -/

/-- Every request of the chain from a hop on is vetted at its hop, no hop that has to be refused
sends one, and what is requested next is where the response redirected to. -/
def Confined (library : Library) (world : World) : ℕ → Text → List Request → Prop
  | _, _, [] => True
  | hop, url, request :: rest =>
      ¬ Refused library (world.resolve hop) url ∧
        (∃ parsed found ip, Vetted library (world.resolve hop) url request parsed found ip) ∧
        (rest = [] ∨ ∃ response location next, world.send hop request = .ok response ∧
          redirectOf response = some location ∧ library.urljoin url location = some next ∧
          Confined library world (hop + 1) next rest)

/-- What a run from a hop on comes to. -/
structure Safe (library : Library) (world : World) (config : Config) (remaining hop : ℕ)
    (url : Text) (run : Run) : Prop where
  confined : Confined library world hop url run.requests
  bounded : run.requests.length ≤ remaining
  capped : ∀ page, run.result = .ok page → ∃ request response,
    run.requests.getLast? = some request ∧
      world.send (hop + run.requests.length - 1) request = .ok response ∧
      Capped config.maxBytes response page

section Chain

variable {library : Library} {world : World} {config : Config} {remaining hop : ℕ} {url : Text}

/-- A hop that sends nothing. -/
theorem Safe.halted (halt : Halt) :
    Safe library world config remaining hop url ⟨[], .error halt⟩ :=
  ⟨trivial, Nat.zero_le _, fun _ => nofun⟩

/-- The last hop of a chain. -/
theorem Safe.last {request : Request} {result : Except Halt Page}
    (vetted : ∃ parsed found ip, Vetted library (world.resolve hop) url request parsed found ip)
    (capped : ∀ page, result = .ok page → ∃ response,
      world.send hop request = .ok response ∧ Capped config.maxBytes response page) :
    Safe library world config (remaining + 1) hop url ⟨[request], result⟩ where
  confined := by
    obtain ⟨parsed, found, ip, facts⟩ := vetted
    exact ⟨facts.not_refused, ⟨parsed, found, ip, facts⟩, Or.inl rfl⟩
  bounded := Nat.succ_le_succ (Nat.zero_le remaining)
  capped page got := by
    obtain ⟨response, sent, facts⟩ := capped page got
    exact ⟨request, response, rfl, sent, facts⟩

/-- A hop that redirects puts its request before those of the rest. -/
theorem Safe.redirected {request : Request} {response : Response} {location next : Text} {run : Run}
    (vetted : ∃ parsed found ip, Vetted library (world.resolve hop) url request parsed found ip)
    (sent : world.send hop request = .ok response) (redirects : redirectOf response = some location)
    (joined : library.urljoin url location = some next)
    (rest : Safe library world config remaining (hop + 1) next run) :
    Safe library world config (remaining + 1) hop url ⟨request :: run.requests, run.result⟩ where
  confined := by
    obtain ⟨parsed, found, ip, facts⟩ := vetted
    exact ⟨facts.not_refused, ⟨parsed, found, ip, facts⟩,
      Or.inr ⟨response, location, next, sent, redirects, joined, rest.confined⟩⟩
  bounded := Nat.succ_le_succ rest.bounded
  capped page got := by
    obtain ⟨last, final, isLast, answered, facts⟩ := rest.capped page got
    refine ⟨last, final, ?_, ?_, facts⟩
    · show (request :: run.requests).getLast? = some last
      rw [List.getLast?_cons, isLast]
      rfl
    · have nonempty : run.requests ≠ [] := by
        rintro isEmpty
        rw [isEmpty] at isLast
        cases isLast
      have positive : 0 < run.requests.length := List.length_pos_iff.mpr nonempty
      have sameHop : hop + (request :: run.requests).length - 1 =
          hop + 1 + run.requests.length - 1 := by
        rw [List.length_cons]
        omega
      show world.send (hop + (request :: run.requests).length - 1) last = _
      rw [sameHop]
      exact answered

/-- Every chain of redirects is safe, by induction on the hops that are left. -/
theorem safe_fetchFrom (remaining hop : ℕ) (url : Text) :
    Safe library world config remaining hop url
      (fetchFrom library world config remaining hop url) := by
  induction remaining generalizing hop url with
  | zero => exact Safe.halted _
  | succ remaining inductionHypothesis =>
    unfold fetchFrom
    split
    · exact Safe.halted _
    · rename_i target checked
      obtain ⟨found, facts⟩ := vetted_of_checkTarget config.headers checked
      have vetted : ∃ parsed found ip, Vetted library (world.resolve hop) url
          (pinned library config.headers target) parsed found ip := ⟨_, found, _, facts⟩
      dsimp only
      split
      · exact Safe.last vetted fun _ => nofun
      · rename_i response sent
        split
        · exact Safe.last vetted fun _ => nofun
        · split
          · exact Safe.last vetted fun page got => ⟨response, sent, capped_of_readPage got⟩
          · rename_i location redirects
            split
            · exact Safe.last vetted fun _ => nofun
            · rename_i next joined
              exact Safe.redirected vetted sent redirects joined (inductionHypothesis _ _)

/-- What `guarded_get` sends and returns is a run's, where it is not an answer of its own. -/
theorem safe_guardedGet (library : Library) (world : World) (config : Config) (url : Text) :
    ∃ run, Safe library world config (config.maxRedirects + 1) 0 url run ∧
      (guardedGet library world config (.str url)).1 = run.requests ∧
      ∀ page, (guardedGet library world config (.str url)).2 = .page page →
        run.result = .ok page := by
  have silent : Safe library world config (config.maxRedirects + 1) 0 url
    ⟨[], .error (.abort .raised)⟩ := Safe.halted _
  unfold guardedGet
  split
  · exact ⟨_, silent, rfl, fun _ => nofun⟩
  · dsimp only
    split
    · exact ⟨_, silent, rfl, fun _ => nofun⟩
    · refine ⟨_, safe_fetchFrom (config.maxRedirects + 1) 0 url, ?_⟩
      split
      · rename_i page fetched
        refine ⟨rfl, ?_⟩
        rintro _ ⟨⟩
        exact fetched
      · exact ⟨rfl, fun _ => nofun⟩
      · exact ⟨rfl, fun _ => nofun⟩
      · exact ⟨rfl, fun _ => nofun⟩

end Chain

/-- A fetch sends requests to vetted addresses only, one for each hop of the chain of redirects it
follows and never more than the limit allows, and what it returns of the last response is cut at
the limit and says so. -/
theorem guardedGet_confined (library : Library) (world : World) (config : Config) (url : Text) :
    Confined library world 0 url (guardedGet library world config (.str url)).1 ∧
      (guardedGet library world config (.str url)).1.length ≤ config.maxRedirects + 1 ∧
      ∀ page, (guardedGet library world config (.str url)).2 = .page page →
        ∃ request response,
          (guardedGet library world config (.str url)).1.getLast? = some request ∧
          world.send ((guardedGet library world config (.str url)).1.length - 1) request =
            .ok response ∧
          Capped config.maxBytes response page ∧ page.body.length ≤ config.maxBytes := by
  obtain ⟨run, safe, sent, returned⟩ := safe_guardedGet library world config url
  rw [sent]
  refine ⟨safe.confined, safe.bounded, fun page got => ?_⟩
  obtain ⟨request, response, isLast, answered, capped⟩ := safe.capped page (returned page got)
  rw [Nat.zero_add] at answered
  refine ⟨request, response, isLast, answered, capped, ?_⟩
  rw [capped.body]
  refine (Text.length_decodeUtf8_le _).trans ?_
  rw [← capped.contentLength]
  exact capped.atMost

end WebFetch

end LocalGpuCluster
