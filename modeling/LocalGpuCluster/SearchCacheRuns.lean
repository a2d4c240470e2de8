/-
This file proves what the search route keeps to in every interleaving: an answer out of the cache is
Tavily's latest stored answer to an equal search, and it is younger than the cache's time to live. The
invariant ties each entry of the cache to the answer in the log that stored it.
-/

import LocalGpuCluster.SearchCache

namespace LocalGpuCluster

namespace SearchCache

open JsonText (Alike FloatText NamesConstants Restorable)

/-! ### The cache, call by call -/

section Cache

variable {Time : Type} [Sub Time] [LE Time] [DecidableLE Time] {cache : Cache Time}
  {key other : Text} {value found : Option Json} {storedAt now : Time}

/-- What a lookup leaves in the cache was there. -/
theorem find_of_find_get (kept : (cache.get key now).1.entries.find other = some (storedAt, found)) :
    cache.entries.find other = some (storedAt, found) := by
  unfold TTLCache.get at kept
  split at kept
  · exact kept
  · split at kept
    · rw [OrderedDict.find_erase] at kept
      split at kept
      · cases kept
      · exact kept
    · rwa [OrderedDict.find_moveToEnd] at kept

theorem get_eq_some {payload : Json} (hit : (cache.get key now).2 = some payload) :
    ∃ storedAt, cache.entries.find key = some (storedAt, some payload) ∧
      ¬ cache.ttlS ≤ now - storedAt := by
  unfold TTLCache.get at hit
  split at hit
  · cases hit
  · rename_i storedAt value here
    split at hit
    · cases hit
    · rename_i fresh
      obtain rfl : value = some payload := hit
      exact ⟨storedAt, here, fresh⟩

omit [Sub Time] [LE Time] [DecidableLE Time] in
/-- What a put leaves in the cache is what it stored, or was there. -/
theorem find_put {size : Option ℕ}
    (kept : (cache.put key value size now).1.entries.find other = some (storedAt, found)) :
    (other = key ∧ storedAt = now ∧ found = value ∧
        ∃ bytes, size = some bytes ∧ bytes ≤ cache.maxValueBytes) ∨
      (cache.entries.find other = some (storedAt, found) ∧
        (other = key → ∀ bytes, size = some bytes → cache.maxValueBytes < bytes)) := by
  cases size with
  | none => exact Or.inr ⟨kept, fun _ _ same => by cases same⟩
  | some size =>
    rw [TTLCache.put] at kept
    dsimp only at kept
    split at kept
    · rename_i large
      refine Or.inr ⟨kept, fun _ bytes same => ?_⟩
      cases same
      exact large
    · rename_i small
      dsimp only at kept
      rw [OrderedDict.find_shrink] at kept
      split at kept
      · rw [TTLCache.stored, OrderedDict.find_assign_moveToEnd] at kept
        split at kept
        · rename_i same
          cases kept
          exact Or.inl ⟨same, rfl, rfl, size, rfl, Nat.le_of_not_lt small⟩
        · rename_i different
          exact Or.inr ⟨kept, fun same => absurd same different⟩
      · cases kept

/-- The cache is set up as the site says. -/
def SetUp (site : Site Time) (cache : Cache Time) : Prop :=
  cache.ttlS = site.ttlS ∧ cache.maxValueBytes = site.maxValueBytes

theorem SetUp.get {site : Site Time} (setUp : SetUp site cache) (key : Text) (now : Time) :
    SetUp site (cache.get key now).1 := by
  unfold TTLCache.get
  split
  · exact setUp
  · split <;> exact setUp

omit [Sub Time] [LE Time] [DecidableLE Time] in
theorem SetUp.put {site : Site Time} (setUp : SetUp site cache) (key : Text) (value : Option Json)
    (size : Option ℕ) (now : Time) : SetUp site (cache.put key value size now).1 := by
  unfold TTLCache.put
  split
  · exact setUp
  · split <;> exact setUp

end Cache

/-! ### The route, half by half -/

/-- The answer is out of the cache. -/
def Answer.FromCache (answer : Answer) (payload : Json) : Prop :=
  answer = .response 200 payload (some (text "HIT"))

theorem not_fromCache_failure (status : ℕ) (type message : Text) (payload : Json) :
    ¬ (failure status type message).FromCache payload := by
  intro same
  cases same

theorem not_fromCache_raised (status : ℕ) (payload : Json) :
    ¬ (Answer.raised status).FromCache payload := by
  intro same
  cases same

section Halves

variable {Time : Type} [Sub Time] [LE Time] [DecidableLE Time] {site : Site Time}

/-- What a search does before it waits: it is refused, or looks into the cache for its key, unless it
is told not to. -/
theorem begin_spec (site : Site Time) (cache : Cache Time) (now : Time) (body : Body) :
    (∃ answer, site.begin cache now body = (cache, .inl answer) ∧
        ∀ payload, ¬ answer.FromCache payload) ∨
      ∃ key, site.cacheKey body.search = some key ∧
        (site.begin cache now body = (cache, .inr ⟨body.search, key⟩) ∨
          ((cache.get key now).2 = none ∧
            site.begin cache now body = ((cache.get key now).1, .inr ⟨body.search, key⟩)) ∨
          ∃ hit, (cache.get key now).2 = some hit ∧ site.begin cache now body =
            ((cache.get key now).1, .inl (.response 200 hit (some (text "HIT"))))) := by
  unfold Site.begin
  by_cases configured : site.apiKey = []
  · rw [if_pos configured]
    exact Or.inl ⟨_, rfl, not_fromCache_failure _ _ _⟩
  rw [if_neg configured]
  cases body with
  | tooLarge => exact Or.inl ⟨_, rfl, not_fromCache_raised _⟩
  | unreadable => exact Or.inl ⟨_, rfl, not_fromCache_failure _ _ _⟩
  | object fields =>
    dsimp only
    split
    · exact Or.inl ⟨_, rfl, not_fromCache_failure _ _ _⟩
    · cases keyed : site.cacheKey (forwarded fields) with
      | none => exact Or.inl ⟨_, rfl, not_fromCache_raised _⟩
      | some key =>
        refine Or.inr ⟨key, keyed, ?_⟩
        dsimp only
        split
        · exact Or.inl rfl
        · cases looked : (cache.get key now).2 with
          | none => exact Or.inr (Or.inl ⟨rfl, rfl⟩)
          | some hit => exact Or.inr (Or.inr ⟨hit, rfl, rfl⟩)

omit [Sub Time] [LE Time] [DecidableLE Time] in
/-- What a search does when Tavily has replied: no answer is out of the cache, and only what came with
status 200 is stored. -/
theorem finish_spec (site : Site Time) (cache : Cache Time) (now : Time) (pending : Pending)
    (reply : Reply) :
    (∀ payload, ¬ (site.finish cache now pending reply).2.FromCache payload) ∧
      ((∃ content payload, reply = .answered 200 content (some payload) ∧
          (site.finish cache now pending reply).1 =
            (cache.put pending.key (asValue payload) (site.sizeOf payload) now).1) ∨
        ((∀ content payload, reply ≠ .answered 200 content (some payload)) ∧
          (site.finish cache now pending reply).1 = cache)) := by
  have apart : text "MISS" ≠ text "HIT" := by decide
  cases reply with
  | unreachable name =>
    refine ⟨not_fromCache_failure _ _ _, Or.inr ⟨fun _ _ same => ?_, rfl⟩⟩
    cases same
  | raised =>
    refine ⟨not_fromCache_raised _, Or.inr ⟨fun _ _ same => ?_, rfl⟩⟩
    cases same
  | answered status content answer =>
    unfold Site.finish
    dsimp only
    by_cases failed : 400 ≤ status
    · rw [if_pos failed]
      refine ⟨not_fromCache_failure _ _ _, Or.inr ⟨fun _ _ same => ?_, rfl⟩⟩
      cases same
      exact absurd failed (by decide)
    rw [if_neg failed]
    cases answer with
    | none =>
      refine ⟨not_fromCache_failure _ _ _, Or.inr ⟨fun _ _ same => ?_, rfl⟩⟩
      cases same
    | some payload =>
      dsimp only
      refine ⟨fun other same => apart (Option.some.inj (Answer.response.inj same).2.2), ?_⟩
      by_cases ok : status = 200
      · subst ok
        exact Or.inl ⟨content, payload, rfl, rfl⟩
      · refine Or.inr ⟨fun _ _ same => ?_, if_neg fun cached => ok (of_decide_eq_true cached)⟩
        cases same
        exact ok rfl

end Halves

/-! ### The invariant -/

section Invariant

variable {Id Time : Type} [DecidableEq Id] [Sub Time] [LE Time] [DecidableLE Time] {site : Site Time}

/-- The entry stored Tavily's payload under the key. -/
def Entry.Stores (site : Site Time) (entry : Entry Time) (key : Text) (payload : Json) : Prop :=
  (∃ content, entry.reply = some (.answered 200 content (some payload))) ∧
    site.cacheKey entry.search = some key ∧
    ∃ bytes, site.sizeOf payload = some bytes ∧ bytes ≤ site.maxValueBytes

/-- The latest entry of the log that stored something under the key stored this. -/
def Source (site : Site Time) (log : List (Entry Time)) (key : Text) (storedAt : Time)
    (value : Option Json) : Prop :=
  ∃ newer source older payload, log = newer ++ source :: older ∧ source.Stores site key payload ∧
    asValue payload = value ∧ source.now = storedAt ∧
    ∀ entry ∈ newer, ∀ other, ¬ entry.Stores site key other

/-- The answers out of the cache have a source before them in the log. -/
def HitsSourced (site : Site Time) (log : List (Entry Time)) : Prop :=
  ∀ newer hit older, log = newer ++ hit :: older → ∀ payload, hit.answer.FromCache payload →
    ∃ key storedAt, site.cacheKey hit.search = some key ∧ Source site older key storedAt (some payload) ∧
      ¬ site.ttlS ≤ hit.now - storedAt

/-- What every interleaving keeps to, where these searches come in. -/
structure Kept (site : Site Time) (searches : List Fields) (state : State Id Time) : Prop where
  setUp : SetUp site state.cache
  waiting : ∀ id pending, state.waiting id = some pending →
    pending.search ∈ searches ∧ site.cacheKey pending.search = some pending.key
  logged : ∀ entry ∈ state.log, entry.search ∈ searches
  found : ∀ key storedAt value, state.cache.entries.find key = some (storedAt, value) →
    Source site state.log key storedAt value
  hits : HitsSourced site state.log

omit [Sub Time] [LE Time] [DecidableLE Time] in
theorem Source.cons {log : List (Entry Time)} {key : Text} {storedAt : Time} {value : Option Json}
    (source : Source site log key storedAt value) {entry : Entry Time}
    (apart : ∀ other, ¬ entry.Stores site key other) :
    Source site (entry :: log) key storedAt value := by
  obtain ⟨newer, stored, older, payload, rfl, stores, same, time, none⟩ := source
  exact ⟨entry :: newer, stored, older, payload, rfl, stores, same, time,
    List.forall_mem_cons.mpr ⟨apart, none⟩⟩

omit [DecidableLE Time] in
theorem HitsSourced.cons {log : List (Entry Time)} (sourced : HitsSourced site log)
    {entry : Entry Time} (here : ∀ payload, entry.answer.FromCache payload →
      ∃ key storedAt, site.cacheKey entry.search = some key ∧
        Source site log key storedAt (some payload) ∧ ¬ site.ttlS ≤ entry.now - storedAt) :
    HitsSourced site (entry :: log) := by
  intro newer hit older split payload fromCache
  cases newer with
  | nil =>
    cases split
    exact here payload fromCache
  | cons first newer =>
    cases split
    exact sourced newer hit older rfl payload fromCache

omit [Sub Time] [LE Time] [DecidableLE Time] in
theorem not_stores_of_none {entry : Entry Time} (unreplied : entry.reply = none) (key : Text)
    (payload : Json) : ¬ entry.Stores site key payload := by
  rintro ⟨⟨content, replied⟩, -⟩
  rw [unreplied] at replied
  cases replied

omit [DecidableEq Id] [DecidableLE Time] in
theorem kept_start (searches : List Fields) : Kept site searches (start site : State Id Time) where
  setUp := ⟨rfl, rfl⟩
  waiting _ _ waits := by cases waits
  logged _ member := absurd member List.not_mem_nil
  found _ _ _ found := by cases found
  hits newer hit older split := by
    cases newer <;> cases split

variable {searches : List Fields} {state : State Id Time}

omit [DecidableEq Id] [DecidableLE Time] in
/-- A search that is answered at once. -/
theorem Kept.answeredAtOnce (kept : Kept site searches state) {search : Fields} {answer : Answer}
    {now : Time} (asked : search ∈ searches) {cache : Cache Time} (setUp : SetUp site cache)
    (looked : ∀ key storedAt value, cache.entries.find key = some (storedAt, value) →
      state.cache.entries.find key = some (storedAt, value))
    (here : ∀ payload, answer.FromCache payload → ∃ key storedAt, site.cacheKey search = some key ∧
      state.cache.entries.find key = some (storedAt, some payload) ∧ ¬ site.ttlS ≤ now - storedAt) :
    Kept site searches
      { state with cache, log := ⟨search, none, answer, now⟩ :: state.log } where
  setUp := setUp
  waiting := kept.waiting
  logged := List.forall_mem_cons.mpr ⟨asked, kept.logged⟩
  found key storedAt value found :=
    (kept.found key storedAt value (looked key storedAt value found)).cons fun other =>
      not_stores_of_none rfl key other
  hits := kept.hits.cons fun payload fromCache => by
    obtain ⟨key, storedAt, keyed, found, fresh⟩ := here payload fromCache
    exact ⟨key, storedAt, keyed, kept.found key storedAt _ found, fresh⟩

omit [DecidableLE Time] in
/-- A search that goes on to wait. -/
theorem Kept.waits (kept : Kept site searches state) {search : Fields} {key : Text} {id : Id}
    (asked : search ∈ searches) (keyed : site.cacheKey search = some key) {cache : Cache Time}
    (setUp : SetUp site cache)
    (looked : ∀ key storedAt value, cache.entries.find key = some (storedAt, value) →
      state.cache.entries.find key = some (storedAt, value)) :
    Kept site searches
      { state with cache, waiting := Function.update state.waiting id (some ⟨search, key⟩) } where
  setUp := setUp
  waiting other pending waits := by
    dsimp only at waits
    by_cases same : other = id
    · subst same
      rw [Function.update_self] at waits
      cases waits
      exact ⟨asked, keyed⟩
    · rw [Function.update_of_ne same] at waits
      exact kept.waiting other pending waits
  logged := kept.logged
  found key storedAt value found := kept.found key storedAt value (looked key storedAt value found)
  hits := kept.hits

theorem Kept.arrives (kept : Kept site searches state) {body : Body} {id : Id} {now : Time}
    {next : State Id Time} (asked : body.search ∈ searches)
    (stepped : step site state (.arrives id body now) = some next) : Kept site searches next := by
  rw [step] at stepped
  split at stepped
  · cases stepped
  · cases stepped
    obtain ⟨answer, begun, notCached⟩ | ⟨key, keyed, begun | ⟨-, begun⟩ | ⟨hit, looked, begun⟩⟩ :=
      begin_spec site state.cache now body
    · rw [begun]
      exact kept.answeredAtOnce asked kept.setUp (fun _ _ _ found => found)
        fun payload fromCache => absurd fromCache (notCached payload)
    · rw [begun]
      exact kept.waits asked keyed kept.setUp fun _ _ _ found => found
    · rw [begun]
      exact kept.waits asked keyed (kept.setUp.get key now) fun _ _ _ => find_of_find_get
    · rw [begun]
      refine kept.answeredAtOnce asked (kept.setUp.get key now) (fun _ _ _ => find_of_find_get)
        fun payload fromCache => ?_
      cases fromCache
      obtain ⟨storedAt, found, fresh⟩ := get_eq_some looked
      exact ⟨key, storedAt, keyed, found, by rwa [kept.setUp.1] at fresh⟩

theorem Kept.replied (kept : Kept site searches state) {reply : Reply} {id : Id} {now : Time}
    {next : State Id Time} (stepped : step site state (.replied id reply now) = some next) :
    Kept site searches next := by
  obtain ⟨pending, waits, rfl⟩ := Option.map_eq_some_iff.mp stepped
  obtain ⟨asked, keyed⟩ := kept.waiting id pending waits
  obtain ⟨notCached, stored⟩ := finish_spec site state.cache now pending reply
  refine ⟨?_, fun other pending waits => ?_, List.forall_mem_cons.mpr ⟨asked, kept.logged⟩, ?_,
    kept.hits.cons fun payload fromCache => absurd fromCache (notCached payload)⟩
  · dsimp only
    obtain ⟨content, payload, -, same⟩ | ⟨-, same⟩ := stored
    · rw [same]
      exact kept.setUp.put _ _ _ _
    · rw [same]
      exact kept.setUp
  · dsimp only at waits
    by_cases same : other = id
    · subst same
      rw [Function.update_self] at waits
      cases waits
    · rw [Function.update_of_ne same] at waits
      exact kept.waiting other pending waits
  · intro key storedAt value found
    dsimp only at found ⊢
    obtain ⟨content, payload, rfl, same⟩ | ⟨other, same⟩ := stored
    · rw [same] at found
      obtain ⟨rfl, rfl, rfl, bytes, sized, small⟩ | ⟨found, large⟩ := find_put found
      · exact ⟨[], _, state.log, payload, rfl,
          ⟨⟨content, rfl⟩, keyed, bytes, sized, kept.setUp.2 ▸ small⟩, rfl, rfl,
          List.forall_mem_nil _⟩
      · refine (kept.found key storedAt value found).cons ?_
        rintro other ⟨⟨content, replied⟩, keyedToo, bytes, sized, small⟩
        cases replied
        have sameKey := Option.some.inj (keyedToo.symm.trans keyed)
        exact absurd small (Nat.not_le.mpr (kept.setUp.2 ▸ large sameKey bytes sized))
    · rw [same] at found
      refine (kept.found key storedAt value found).cons ?_
      rintro payload ⟨⟨content, replied⟩, -⟩
      exact other content payload (Option.some.inj replied)

omit [DecidableLE Time] in
theorem Kept.cancelled (kept : Kept site searches state) (id : Id) :
    Kept site searches { state with waiting := Function.update state.waiting id none } where
  setUp := kept.setUp
  waiting other pending waits := by
    dsimp only at waits
    by_cases same : other = id
    · subst same
      rw [Function.update_self] at waits
      cases waits
    · rw [Function.update_of_ne same] at waits
      exact kept.waiting other pending waits
  logged := kept.logged
  found := kept.found
  hits := kept.hits

/-- The fields that an event forwards. -/
def Event.search : Event Id Time → Fields
  | .arrives _ body _ => body.search
  | .replied .. | .cancelled _ => []

/-- The searches of a run. -/
def searchesOf (events : List (Event Id Time)) : List Fields := events.map Event.search

theorem Kept.step (kept : Kept site searches state) {event : Event Id Time} {next : State Id Time}
    (asked : event.search ∈ searches) (stepped : SearchCache.step site state event = some next) :
    Kept site searches next := by
  cases event with
  | arrives id body now => exact kept.arrives asked stepped
  | replied id reply now => exact kept.replied stepped
  | cancelled id =>
    cases stepped
    exact kept.cancelled id

theorem kept_run {events : List (Event Id Time)} {state : State Id Time}
    (ran : (machine site).run (start site) events = some state) :
    Kept site (searchesOf events) state :=
  (machine site).run_invariant_of_guarded (fun _ event => event.search ∈ searchesOf events)
    (Kept site (searchesOf events)) (fun _ _ _ asked stepped kept => kept.step asked stepped)
    ((machine site).guarded_of_forall (fun _ member _ => List.mem_map_of_mem member) (start site))
    ran (kept_start _)

end Invariant

/-! ### Answers out of the cache -/

section Answers

variable {Id Time : Type} [DecidableEq Id] [Sub Time] [LE Time] [DecidableLE Time] {site : Site Time}

def Site.canonical (site : Site Time) (search : Fields) : Option Text :=
  JsonText.dumpsCanonical site.floats site.nonFinite site.limit (.obj search)

/-- The searches are what `json.loads` reads of UTF-8, with floats that Python writes and reads, and no
two of their canonical texts have one digest. -/
structure Plain (site : Site Time) (searches : List Fields) : Prop where
  restorable : ∀ search ∈ searches, Restorable site.floats (.obj search)
  named : NamesConstants site.nonFinite
  collisionFree : Set.InjOn site.sha256
    {written | ∃ search ∈ searches, site.canonical search = some written}

omit [Sub Time] [LE Time] [DecidableLE Time] in
/-- Searches have one key where they are equal, and nowhere else. -/
theorem cacheKey_iff_alike {searches : List Fields} (plain : Plain site searches)
    {first second : Fields} (asked : first ∈ searches) (askedToo : second ∈ searches) {key : Text}
    (keyed : site.cacheKey first = some key) :
    site.cacheKey second = some key ↔ Alike (.obj second) (.obj first) := by
  obtain ⟨written, dumped, rfl⟩ := Option.map_eq_some_iff.mp keyed
  constructor
  · intro keyedToo
    obtain ⟨other, dumpedToo, same⟩ := Option.map_eq_some_iff.mp keyedToo
    have equal : other = written :=
      plain.collisionFree ⟨second, askedToo, dumpedToo⟩ ⟨first, asked, dumped⟩ same
    subst equal
    exact JsonText.alike_of_dumpsCanonical plain.named (plain.restorable second askedToo)
      (plain.restorable first asked) dumpedToo dumped
  · rintro ⟨value, same, sameToo⟩
    have equal := JsonText.dumpsCanonical_eq_of_sameValue site.floats site.nonFinite site.limit
      (plain.restorable second askedToo).dicts same
    have equalToo := JsonText.dumpsCanonical_eq_of_sameValue site.floats site.nonFinite
      site.limit (plain.restorable first asked).dicts sameToo
    rw [Site.cacheKey, equal, ← equalToo, dumped]
    rfl

/-- An answer out of the cache is what Tavily answered to an equal search: the latest such answer that
was not too large to be stored, and no older than the cache's time to live. -/
theorem fromCache_latest {events : List (Event Id Time)} {state : State Id Time}
    (plain : Plain site (searchesOf events))
    (ran : (machine site).run (start site) events = some state) {newer older : List (Entry Time)}
    {hit : Entry Time} (logged : state.log = newer ++ hit :: older) {payload : Json}
    (fromCache : hit.answer.FromCache payload) :
    ∃ between source earlier content, older = between ++ source :: earlier ∧
      source.reply = some (.answered 200 content (some payload)) ∧
      Alike (.obj source.search) (.obj hit.search) ∧ ¬ site.ttlS ≤ hit.now - source.now ∧
      ∀ entry ∈ between, ∀ content other bytes,
        entry.reply = some (.answered 200 content (some other)) →
        Alike (.obj entry.search) (.obj hit.search) → site.sizeOf other = some bytes →
        site.maxValueBytes < bytes := by
  have kept := kept_run ran
  obtain ⟨key, _, keyed, source, fresh⟩ := kept.hits newer hit older logged payload fromCache
  obtain ⟨between, stored, earlier, same, rfl, stores, value, rfl, others⟩ := source
  have inLog : ∀ entry ∈ hit :: (between ++ stored :: earlier), entry.search ∈ searchesOf events :=
    fun entry member => kept.logged entry (logged ▸ List.mem_append_right newer member)
  have asked := inLog hit List.mem_cons_self
  have inOlder : ∀ entry ∈ between ++ stored :: earlier, entry.search ∈ searchesOf events :=
    fun entry member => inLog entry (List.mem_cons_of_mem _ member)
  obtain ⟨⟨content, replied⟩, keyedToo, -⟩ := stores
  have samePayload : same = payload := by
    cases same <;> first | exact Option.some.inj value | cases value
  subst samePayload
  have askedToo := inOlder stored (List.mem_append_right _ List.mem_cons_self)
  refine ⟨between, stored, earlier, content, rfl, replied,
    (cacheKey_iff_alike plain asked askedToo keyed).mp keyedToo, fresh, ?_⟩
  intro entry member content other bytes repliedToo alike sized
  have askedThere := inOlder entry (List.mem_append_left _ member)
  refine Nat.lt_of_not_le fun small => others entry member other ⟨⟨content, repliedToo⟩, ?_, bytes, sized, small⟩
  exact (cacheKey_iff_alike plain asked askedThere keyed).mpr alike

/-- A site without floats, whose digests are the texts themselves. -/
def exampleSite : Site ℤ :=
  ⟨text "key", ⟨fun _ => [], fun _ => .infinite⟩, JsonText.constantName, 9, id, 100, 5, 50⟩

/-- A search, and the same one with its fields in another order, after it was answered. -/
def exampleEvents : List (Event ℕ ℤ) :=
  [.arrives 0 (.object [(text "query", .str (text "a")), (text "days", .int 3)]) 0,
    .replied 0 (.answered 200 [] (some (.int 7))) 10,
    .arrives 1 (.object [(text "days", .int 3), (text "query", .str (text "a"))]) 60]

theorem example_plain : Plain exampleSite (searchesOf exampleEvents) where
  restorable search member := by
    have query : Restorable exampleSite.floats (.str (text "a")) :=
      .str (JsonText.unpaired_of_low (by decide))
    have low (key : Text) (here : key = text "query" ∨ key = text "days") : JsonText.Unpaired key :=
      JsonText.unpaired_of_low (by obtain rfl | rfl := here <;> decide)
    have listed : searchesOf exampleEvents =
      [[(text "query", .str (text "a")), (text "days", .int 3)], [],
        [(text "days", .int 3), (text "query", .str (text "a"))]] := rfl
    rw [listed] at member
    simp only [List.mem_cons, List.not_mem_nil, or_false] at member
    obtain rfl | rfl | rfl := member
    · exact .obj (by decide)
        (List.forall_mem_cons.mpr ⟨low _ (Or.inl rfl), List.forall_mem_singleton.mpr (low _ (Or.inr rfl))⟩)
        (List.forall_mem_cons.mpr ⟨query, List.forall_mem_singleton.mpr (.int 3)⟩)
    · exact .obj (by decide) (List.forall_mem_nil _) (List.forall_mem_nil _)
    · exact .obj (by decide)
        (List.forall_mem_cons.mpr ⟨low _ (Or.inr rfl), List.forall_mem_singleton.mpr (low _ (Or.inl rfl))⟩)
        (List.forall_mem_cons.mpr ⟨.int 3, List.forall_mem_singleton.mpr query⟩)
  named := JsonText.namesConstants_constantName
  collisionFree := Set.injOn_id _

/-- The second search is answered out of the cache, as the theorem says of it. -/
theorem example_fromCache_latest : ∃ state : State ℕ ℤ, ∃ newer hit older,
    (machine exampleSite).run (start exampleSite) exampleEvents = some state ∧
      state.log = newer ++ hit :: older ∧ hit.answer.FromCache (.int 7) ∧
      ∃ between source earlier content, older = between ++ source :: earlier ∧
        source.reply = some (.answered 200 content (some (.int 7))) ∧
        Alike (.obj source.search) (.obj hit.search) ∧ ¬ exampleSite.ttlS ≤ hit.now - source.now ∧
        ∀ entry ∈ between, ∀ content other bytes,
          entry.reply = some (.answered 200 content (some other)) →
          Alike (.obj entry.search) (.obj hit.search) → exampleSite.sizeOf other = some bytes →
          exampleSite.maxValueBytes < bytes := by
  have ran : ∃ state, (machine exampleSite).run (start exampleSite) exampleEvents = some state ∧
      ∃ hit older, state.log = [] ++ hit :: older ∧ hit.answer.FromCache (.int 7) :=
    ⟨_, rfl, _, _, rfl, rfl⟩
  obtain ⟨state, ran, hit, older, logged, fromCache⟩ := ran
  exact ⟨state, [], hit, older, ran, logged, fromCache,
    fromCache_latest example_plain ran logged fromCache⟩

end Answers

end SearchCache

end LocalGpuCluster
