/-
This file models the fetch budget of `handlers/sphinx_sitemap.py`. A run fetches the pages that were
never fetched and then those that were fetched least recently. A page whose fetch fails yields no
document, so nothing records the attempt and the page is first again in the next run. As long as the
fetches succeed the runs go through all pages; pages that keep failing starve the others.
-/

import LocalGpuCluster.LeastRecent
import LocalGpuCluster.RagHealing
import Mathlib.Data.List.Lex
import Mathlib.Data.Prod.Lex

namespace LocalGpuCluster

namespace Rag

/-- The enumerated URLs, `sorted(set(out))`, and the budget. No budget is 0. -/
structure Sitemap where
  urls : List Url
  maxUrlsPerRun : ℤ
  sorted : urls.Pairwise (· < ·)

/-- What a refresh meets besides its fetches, the text of each page that is fetched, and the order in
which the workers complete. The clock does not go back during a run. -/
structure Crawl where
  run : Run
  fetch : Url → Option Text
  completed : List Document → List Document
  perm : ∀ docs, (completed docs).Perm docs
  clock_le : ∀ doc, run.now ≤ run.clock doc

/-! ### Which pages are fetched -/

/-- The sort key of `_prioritise`. An entry has at least one field, so it is true. -/
def key (prior : Documents) (url : Url) : ℕ ×ₗ Text :=
  match prior.lookup url with
  | none => toLex (0, [])
  | some rec => toLex (1, rec.lastFetched)

/-- How many items `items[:stop]` has at most. -/
def sliceCount (stop : ℤ) (length : ℕ) : ℕ := if 0 ≤ stop then stop.toNat else length - (-stop).toNat

/-- `_prioritise`. -/
def prioritise (urls : List Url) (prior : Documents) (budget : ℤ) : List Url :=
  LeastRecent.least (key prior) (sliceCount budget urls.length) urls

/-- The URLs whose fetch is attempted. -/
def Sitemap.attempted (sitemap : Sitemap) (prior : Documents) : List Url :=
  if sitemap.maxUrlsPerRun ≠ 0 ∧ sitemap.maxUrlsPerRun < sitemap.urls.length then
    prioritise sitemap.urls prior sitemap.maxUrlsPerRun
  else sitemap.urls

/-- `fetch_one`. A fetch that fails yields nothing. -/
def Crawl.fetchOne (crawl : Crawl) (url : Url) : Option Document := (crawl.fetch url).map (⟨url, ·⟩)

/-- `collect`. Without any URL it raises. -/
def Sitemap.collect (sitemap : Sitemap) (crawl : Crawl) (prior : Documents) : Option Collection :=
  if sitemap.urls.isEmpty then none
  else some
    { documents := crawl.completed ((sitemap.attempted prior).filterMap crawl.fetchOne)
      discoveredUrls := sitemap.urls }

/-- The run of a refresh of the sitemap. -/
def Sitemap.runOf (sitemap : Sitemap) (crawl : Crawl) (prior : Documents) : Run :=
  { crawl.run with collection := sitemap.collect crawl prior }

/-- A refresh of the sitemap. -/
def Sitemap.refresh (digest : Digest) (source : Source) (sitemap : Sitemap) (crawl : Crawl)
    (world : World) : Status × World :=
  refreshOne digest source (sitemap.runOf crawl world.documents) world

/-! ### Refreshes one after another -/

/-- The state after some refreshes. -/
def Sitemap.worldAfter (digest : Digest) (source : Source) (sitemap : Sitemap) :
    List Crawl → World → World
  | [], world => world
  | crawl :: rest, world =>
      sitemap.worldAfter digest source rest (sitemap.refresh digest source crawl world).2

/-- The states that some refreshes start from. -/
def Sitemap.starts (digest : Digest) (source : Source) (sitemap : Sitemap) :
    List Crawl → World → List World
  | [], _ => []
  | crawl :: rest, world =>
      world :: sitemap.starts digest source rest (sitemap.refresh digest source crawl world).2

/-- The URLs that some refreshes attempt. -/
def Sitemap.attempts (digest : Digest) (source : Source) (sitemap : Sitemap) (crawls : List Crawl)
    (world : World) : List Url :=
  (sitemap.starts digest source crawls world).flatMap fun start =>
    sitemap.attempted start.documents

/-- A refresh comes before another one. -/
def Crawl.Before (first second : Crawl) : Prop :=
  first.run.now < second.run.now ∧ ∀ doc, first.run.clock doc < second.run.now

/-- All time stamps are earlier. -/
def EarlierThan (time : Text) (documents : Documents) : Prop :=
  ∀ url, ∀ entry ∈ documents.lookup url, entry.lastFetched < time

/-- A refresh that is not halted and writes its state. -/
structure Completes (digest : Digest) (source : Source) (sitemap : Sitemap) (crawl : Crawl)
    (world : World) : Prop where
  passes : ∀ collection ∈ sitemap.collect crawl world.documents,
    gate source crawl.run (planOf digest source collection world.documents) = none
  applies : crawl.run.mode = .apply
  whole : crawl.run.interruptedAfter = none

/-- Every page that is attempted is fetched and gets into the state. -/
structure Reaches (sitemap : Sitemap) (crawl : Crawl) (world : World) : Prop where
  fetched : ∀ url ∈ sitemap.attempted world.documents, (crawl.fetch url).isSome = true
  accepted : ∀ url ∈ sitemap.attempted world.documents, url ∉ world.documents →
    ∀ content ∈ crawl.fetch url, crawl.run.upload ⟨url, content⟩ ≠ .raised

/-- A condition on each of some refreshes and the state it starts from. -/
def Sitemap.Each (digest : Digest) (source : Source) (sitemap : Sitemap)
    (holds : Crawl → World → Prop) : List Crawl → World → Prop
  | [], _ => True
  | crawl :: rest, world =>
      holds crawl world ∧
        sitemap.Each digest source holds rest (sitemap.refresh digest source crawl world).2

variable {digest : Digest} {source : Source} {sitemap : Sitemap} {crawl : Crawl} {run : Run}
  {collection : Collection} {plan : Plan} {world : World} {persisted : Documents} {doc : Document}
  {url : Url} {time : Text}

/-! ### What is collected -/

theorem Sitemap.nodup (sitemap : Sitemap) : sitemap.urls.Nodup := sitemap.sorted.imp fun less => less.ne

theorem mem_of_mem_attempted (member : url ∈ sitemap.attempted persisted) : url ∈ sitemap.urls := by
  unfold Sitemap.attempted at member
  split at member
  · exact LeastRecent.mem_of_mem_least member
  · exact member

theorem nodup_attempted : (sitemap.attempted persisted).Nodup := by
  unfold Sitemap.attempted
  split
  · exact LeastRecent.nodup_least sitemap.nodup
  · exact sitemap.nodup

/-- Where there is a URL, the documents of the attempted URLs are collected. -/
theorem collect_eq (member : url ∈ sitemap.urls) : sitemap.collect crawl persisted = some
    { documents := crawl.completed ((sitemap.attempted persisted).filterMap crawl.fetchOne)
      discoveredUrls := sitemap.urls } :=
  if_neg (by rw [List.isEmpty_iff]; exact List.ne_nil_of_mem member)

theorem fetchOne_eq_some : crawl.fetchOne url = some doc ↔
    doc.url = url ∧ crawl.fetch url = some doc.content := by
  unfold Crawl.fetchOne
  rw [Option.map_eq_some_iff]
  constructor
  · rintro ⟨content, fetched, rfl⟩
    exact ⟨rfl, fetched⟩
  · rintro ⟨rfl, fetched⟩
    exact ⟨doc.content, fetched, rfl⟩

/-- The fetched pages of different URLs have different URLs. -/
theorem unique_completed (crawl : Crawl) {urls : List Url} (nodup : urls.Nodup) :
    UniqueUrls (crawl.completed (urls.filterMap crawl.fetchOne)) := by
  unfold UniqueUrls
  rw [((crawl.perm _).map _).nodup_iff, List.map_filterMap]
  refine nodup.filterMap fun first second url isFirst isSecond => ?_
  obtain ⟨doc, fetched, rfl⟩ := Option.map_eq_some_iff.mp isFirst
  obtain ⟨other, otherFetched, same⟩ := Option.map_eq_some_iff.mp isSecond
  rw [← (fetchOne_eq_some.mp fetched).1, ← (fetchOne_eq_some.mp otherFetched).1, same]

/-- The fetched pages have URLs that were asked for. -/
theorem url_mem_of_completed {crawl : Crawl} {urls : List Url} {doc : Document}
    (member : doc ∈ crawl.completed (urls.filterMap crawl.fetchOne)) : doc.url ∈ urls := by
  rw [(crawl.perm _).mem_iff, List.mem_filterMap] at member
  obtain ⟨url, asked, fetched⟩ := member
  exact (fetchOne_eq_some.mp fetched).1 ▸ asked

section Collected

variable (collected : sitemap.collect crawl persisted = some collection)

include collected in
theorem mem_documents : doc ∈ collection.documents ↔
    doc.url ∈ sitemap.attempted persisted ∧ crawl.fetch doc.url = some doc.content := by
  unfold Sitemap.collect at collected
  split at collected
  · cases collected
  · obtain rfl := Option.some.inj collected
    dsimp only
    rw [(crawl.perm _).mem_iff, List.mem_filterMap]
    constructor
    · rintro ⟨url, member, fetched⟩
      obtain ⟨rfl, isContent⟩ := fetchOne_eq_some.mp fetched
      exact ⟨member, isContent⟩
    · rintro ⟨member, isContent⟩
      exact ⟨doc.url, member, fetchOne_eq_some.mpr ⟨rfl, isContent⟩⟩

include collected in
theorem unique_documents : UniqueUrls collection.documents := by
  unfold Sitemap.collect at collected
  split at collected
  · cases collected
  · obtain rfl := Option.some.inj collected
    exact unique_completed crawl nodup_attempted

include collected in
theorem knownUrls_eq : collection.knownUrls = some sitemap.urls := by
  unfold Sitemap.collect at collected
  split at collected
  · cases collected
  · rename_i some
    obtain rfl := Option.some.inj collected
    exact if_neg some

include collected in
/-- An enumerated URL is not removed. -/
theorem not_mem_removes (member : url ∈ sitemap.urls) :
    url ∉ (planOf digest source collection persisted).removes := fun gone => by
  have notPresent := (mem_removes_iff.mp gone).2.2
  rw [knownUrls_eq collected] at notPresent
  exact notPresent member

end Collected

/-! ### The stamps after a refresh -/

/-- The entry of a URL that is neither collected nor removed stays. -/
theorem lookup_untouched (whole : run.interruptedAfter = none)
    (kept : url ∉ (planOf digest source collection world.documents).removes)
    (apart : ∀ doc ∈ collection.documents, doc.url ≠ url) :
    (applyPlan digest source run collection (planOf digest source collection world.documents)
      world).2.documents.lookup url = world.documents.lookup url := by
  have raised : ∀ doc ∈ run.reachedUploads (planOf digest source collection world.documents),
      doc.url = url → run.upload doc = .raised := by
    intro doc reached same
    rw [Run.reachedUploads, whole] at reached
    exact absurd same (apart doc (mem_uploadQueue.mp reached).1)
  have notCollected : url ∉ collection.documents.map Document.url := fun member => by
    obtain ⟨doc, inDocs, same⟩ := List.mem_map.mp member
    exact apart doc inDocs same
  rw [lookup_applyPlan whole, if_neg kept, uploads, lookup_uploads_of_raised raised,
    lookup_stampAll]
  simp only [notCollected, if_false, Option.map_id']

/-- The stamp of a collected page that is in the state or gets there is not before the refresh. -/
theorem lookup_collected (unique : UniqueUrls collection.documents)
    (whole : run.interruptedAfter = none) (clock : ∀ doc, run.now ≤ run.clock doc)
    (member : doc ∈ collection.documents)
    (kept : doc.url ∉ (planOf digest source collection world.documents).removes)
    (accepted : doc.url ∉ world.documents → run.upload doc ≠ .raised) :
    ∃ entry, (applyPlan digest source run collection
      (planOf digest source collection world.documents) world).2.documents.lookup doc.url =
        some entry ∧ run.now ≤ entry.lastFetched := by
  rw [lookup_applyPlan whole, if_neg kept, lookup_uploads unique whole member]
  split
  · exact ⟨run.entryOf digest doc, rfl, clock doc⟩
  · rename_i notUploaded
    have present : doc.url ∈ world.documents := by
      by_contra absent
      exact notUploaded ⟨Or.inl (isAdd_iff.mpr absent), accepted absent⟩
    obtain ⟨entry, found⟩ := Option.isSome_iff_exists.mp (AList.lookup_isSome.mpr present)
    refine ⟨{ entry with lastFetched := run.now }, ?_, le_refl _⟩
    rw [lookup_stampAll, found]
    simp only [Option.map_some, List.mem_map_of_mem member, if_true]

/-- The refresh of a sitemap that completes is its apply phase. -/
theorem refresh_eq (completes : Completes digest source sitemap crawl world)
    (collected : sitemap.collect crawl world.documents = some collection) :
    sitemap.refresh digest source crawl world =
      applyPlan digest source (sitemap.runOf crawl world.documents) collection
        (planOf digest source collection world.documents) world := by
  have passes : gate source (sitemap.runOf crawl world.documents)
      (planOf digest source collection world.documents) = none :=
    completes.passes collection collected
  have isCollection : (sitemap.runOf crawl world.documents).collection = some collection := collected
  have applies : (sitemap.runOf crawl world.documents).mode = .apply := completes.applies
  unfold Sitemap.refresh refreshOne
  rw [isCollection]
  dsimp only
  rw [passes, applies]

section Keys

variable (completes : Completes digest source sitemap crawl world)

include completes in
/-- A page that is not attempted keeps its place in the order. -/
theorem key_not_attempted (member : url ∈ sitemap.urls)
    (waits : url ∉ sitemap.attempted world.documents) :
    key (sitemap.refresh digest source crawl world).2.documents url = key world.documents url := by
  have collected := @collect_eq sitemap crawl world.documents url member
  have whole : (sitemap.runOf crawl world.documents).interruptedAfter = none := completes.whole
  unfold key
  rw [refresh_eq completes collected, lookup_untouched whole (not_mem_removes collected member)]
  rintro doc inDocs rfl
  exact waits ((mem_documents collected).mp inDocs).1

include completes in
/-- A page that is attempted and reached goes to the end of the order. -/
theorem key_attempted (reaches : Reaches sitemap crawl world)
    (attempted : url ∈ sitemap.attempted world.documents) :
    toLex (1, crawl.run.now) ≤ key (sitemap.refresh digest source crawl world).2.documents url := by
  have member := mem_of_mem_attempted attempted
  have collected := @collect_eq sitemap crawl world.documents url member
  obtain ⟨content, fetched⟩ := Option.isSome_iff_exists.mp (reaches.fetched url attempted)
  obtain ⟨entry, found, late⟩ := @lookup_collected digest source
    (sitemap.runOf crawl world.documents) _ world ⟨url, content⟩ (unique_documents collected)
    completes.whole crawl.clock_le ((mem_documents collected).mpr ⟨attempted, fetched⟩)
    (not_mem_removes collected member)
    (fun absent => reaches.accepted url attempted absent content fetched)
  unfold key
  rw [refresh_eq completes collected, found]
  exact Prod.Lex.toLex_le_toLex.mpr (Or.inr ⟨rfl, late⟩)

end Keys

/-! ### Stamps are in the past -/

theorem EarlierThan.stampAll (now : run.now < time) (earlier : EarlierThan time persisted)
    (docs : List Document) : EarlierThan time (stampAll run.now docs persisted) := by
  intro url entry found
  rw [lookup_stampAll] at found
  obtain ⟨prev, isPrev, rfl⟩ := Option.map_eq_some_iff.mp found
  split
  · exact now
  · exact earlier url prev isPrev

theorem EarlierThan.uploads (clock : ∀ doc, run.clock doc < time) {queue : List Document}
    {progress : Progress}
    (earlier : EarlierThan time progress.state ∧ EarlierThan time progress.saved) :
    EarlierThan time (queue.foldl (uploadOne digest run persisted) progress).state ∧
      EarlierThan time (queue.foldl (uploadOne digest run persisted) progress).saved := by
  induction queue generalizing progress with
  | nil => exact earlier
  | cons doc rest inductionHypothesis =>
    rw [List.foldl_cons]
    by_cases refused : run.upload doc = .raised
    · rw [uploadOne_raised refused]
      exact inductionHypothesis earlier
    · rw [uploadOne_listed refused]
      have inserted :
          EarlierThan time (progress.state.insert doc.url (run.entryOf digest doc)) := by
        intro url entry found
        by_cases same : url = doc.url
        · subst same
          rw [AList.lookup_insert] at found
          obtain rfl := Option.some.inj found
          exact clock doc
        · rw [AList.lookup_insert_ne same] at found
          exact earlier.1 url entry found
      exact inductionHypothesis ⟨inserted, inserted⟩

/-- A refresh leaves no stamp that is later than its own times. -/
theorem EarlierThan.refreshOne (now : run.now < time) (clock : ∀ doc, run.clock doc < time)
    (earlier : EarlierThan time world.documents) :
    EarlierThan time (refreshOne digest source run world).2.documents := by
  cases collected : run.collection with
  | none =>
    unfold Rag.refreshOne
    rw [collected]
    exact earlier
  | some collection =>
    have uploaded : EarlierThan time (Rag.uploads digest run collection
          (planOf digest source collection world.documents) world.documents).state ∧
        EarlierThan time (Rag.uploads digest run collection
          (planOf digest source collection world.documents) world.documents).saved :=
      EarlierThan.uploads clock ⟨earlier.stampAll now collection.documents, earlier⟩
    have outcome : Outcome digest source run world collection := refreshOne_outcome collected
    cases outcome with
    | stopped same => rw [same]; exact earlier
    | interrupted _ same => rw [same]; exact uploaded.2
    | applied whole _ same =>
      intro url entry found
      rw [same, lookup_applyPlan whole] at found
      split at found
      · cases found
      · exact uploaded.1 url entry found

/-- After some refreshes the stamps are earlier than each later refresh. -/
theorem earlierThan_worldAfter {before : List Crawl} {later : Crawl}
    (increasing : ∀ crawl ∈ before, crawl.Before later)
    (earlier : EarlierThan later.run.now world.documents) :
    EarlierThan later.run.now (sitemap.worldAfter digest source before world).documents := by
  induction before generalizing world with
  | nil => exact earlier
  | cons crawl rest inductionHypothesis =>
    refine inductionHypothesis (fun other member => increasing other (List.mem_cons_of_mem _ member))
      ?_
    have isBefore := increasing crawl List.mem_cons_self
    exact EarlierThan.refreshOne isBefore.1 isBefore.2 earlier

/-! ### Every page is attempted -/

theorem key_lt (earlier : EarlierThan time persisted) (url : Url) :
    key persisted url < toLex (1, time) := by
  unfold key
  cases found : persisted.lookup url with
  | none => exact Prod.Lex.toLex_lt_toLex.mpr (Or.inl Nat.zero_lt_one)
  | some entry => exact Prod.Lex.toLex_lt_toLex.mpr (Or.inr ⟨rfl, earlier url entry found⟩)

/-- The refreshes of a window are rounds that serve the least recently fetched pages. -/
theorem rounds_starts {count : ℕ} (attempted : ∀ prior,
      sitemap.attempted prior = LeastRecent.least (key prior) count sitemap.urls)
    {window : List Crawl} (since : ∀ crawl ∈ window, time ≤ crawl.run.now)
    (completes : sitemap.Each digest source (Completes digest source sitemap) window world)
    (reaches : sitemap.Each digest source (Reaches sitemap) window world) :
    ((sitemap.starts digest source window world).map fun start => key start.documents).IsChain
      (LeastRecent.Round sitemap.urls count (toLex (1, time))) := by
  induction window generalizing world with
  | nil => exact .nil
  | cons crawl rest inductionHypothesis =>
    have tail := inductionHypothesis (fun other member => since other (List.mem_cons_of_mem _ member))
      completes.2 reaches.2
    cases rest with
    | nil => exact .singleton _
    | cons next others =>
      refine List.isChain_cons_cons.mpr ⟨⟨?_, ?_⟩, tail⟩
      · intro url isLeast
        rw [← attempted] at isLeast
        refine le_trans ?_ (key_attempted completes.1 reaches.1 isLeast)
        exact Prod.Lex.toLex_le_toLex.mpr (Or.inr ⟨rfl, since crawl List.mem_cons_self⟩)
      · intro url member waits
        rw [← attempted] at waits
        exact key_not_attempted completes.1 member waits

theorem length_starts (window : List Crawl) (world : World) :
    (sitemap.starts digest source window world).length = window.length := by
  induction window generalizing world with
  | nil => rfl
  | cons crawl rest inductionHypothesis => exact congrArg Nat.succ (inductionHypothesis _)

/-- In a window of refreshes that reach what they attempt, every page is attempted if the budgets add
up to the number of pages. -/
theorem attempted_in_window {before window : List Crawl} (positive : 1 ≤ sitemap.maxUrlsPerRun)
    (increasing : (before ++ window).Pairwise Crawl.Before)
    (past : ∀ first ∈ (before ++ window).head?, EarlierThan first.run.now world.documents)
    (long : (sitemap.urls.length : ℤ) ≤ window.length * sitemap.maxUrlsPerRun)
    (completes : sitemap.Each digest source (Completes digest source sitemap) window
      (sitemap.worldAfter digest source before world))
    (reaches : sitemap.Each digest source (Reaches sitemap) window
      (sitemap.worldAfter digest source before world)) :
    ∀ url ∈ sitemap.urls,
      url ∈ sitemap.attempts digest source window (sitemap.worldAfter digest source before world) := by
  intro url member
  cases window with
  | nil =>
    have pages := List.length_pos_of_mem member
    rw [List.length_nil] at long
    omega
  | cons first rest =>
    by_cases budgeted : sitemap.maxUrlsPerRun ≠ 0 ∧ sitemap.maxUrlsPerRun < sitemap.urls.length
    · have attempted (prior : Documents) : sitemap.attempted prior =
          LeastRecent.least (key prior) sitemap.maxUrlsPerRun.toNat sitemap.urls := by
        rw [Sitemap.attempted, if_pos budgeted, prioritise, sliceCount, if_pos (by omega)]
      obtain ⟨_, inWindow, across⟩ := List.pairwise_append.mp increasing
      have since : ∀ crawl ∈ first :: rest, first.run.now ≤ crawl.run.now := by
        intro crawl inside
        obtain rfl | later := List.mem_cons.mp inside
        · exact le_refl _
        · exact ((List.pairwise_cons.mp inWindow).1 crawl later).1.le
      have earlier : EarlierThan first.run.now world.documents := by
        cases before with
        | nil => exact past first rfl
        | cons start others =>
          intro url entry found
          exact (past start rfl url entry found).trans
            (across start List.mem_cons_self first List.mem_cons_self).1
      have start := @earlierThan_worldAfter digest source sitemap world before first
        (fun crawl isBefore => across crawl isBefore first List.mem_cons_self) earlier
      have enough : sitemap.urls.length ≤
          ((sitemap.starts digest source (first :: rest)
            (sitemap.worldAfter digest source before world)).map fun start =>
              key start.documents).length * sitemap.maxUrlsPerRun.toNat := by
        have budget : (sitemap.maxUrlsPerRun.toNat : ℤ) = sitemap.maxUrlsPerRun :=
          Int.toNat_of_nonneg (by omega)
        rw [← budget] at long
        rw [List.length_map, length_starts]
        exact_mod_cast long
      obtain ⟨_, inKeys, isLeast⟩ := LeastRecent.served_in_rounds sitemap.nodup
        (rounds_starts attempted since completes reaches)
        (fun _ isHead other _ => by
          obtain rfl := Option.some.inj isHead
          exact key_lt start other)
        enough member
      obtain ⟨reached, isStart, rfl⟩ := List.mem_map.mp inKeys
      exact List.mem_flatMap.mpr ⟨reached, isStart, (attempted _).symm ▸ isLeast⟩
    · refine List.mem_flatMap.mpr ⟨_, List.mem_cons_self, ?_⟩
      rw [Sitemap.attempted, if_neg budgeted]
      exact member

/-! ### Two pages and a budget of one -/

def exampleSitemap : Sitemap :=
  ⟨["https://x/a", "https://x/b"].map text, 1, by decide⟩

/-- A refresh at a time, with the pages that can be fetched. -/
def crawlAt (time : String) (fetch : Url → Option Text) : Crawl where
  run := { exampleRun with now := text time, clock := fun _ => text time }
  fetch := fetch
  completed := id
  perm := fun _ => List.Perm.refl _
  clock_le := fun _ => le_refl _

theorem before_crawlAt {first second : String} {firstFetch secondFetch : Url → Option Text}
    (less : text first < text second) :
    (crawlAt first firstFetch).Before (crawlAt second secondFetch) :=
  ⟨less, fun _ => less⟩

/-- Every page can be fetched. -/
def allPages : Url → Option Text := fun _ => some (text "page")

/-- The first page cannot be fetched. -/
def notFirst : Url → Option Text := fun url => if url = text "https://x/a" then none else allPages url

/-- A refresh in which nothing can be fetched, and a window of two in which everything can. -/
theorem example_attempted_in_window : text "https://x/b" ∈
    exampleSitemap.attempts Digest.plain exampleSource
      [crawlAt "2026-01-02" allPages, crawlAt "2026-01-03" allPages]
      (exampleSitemap.worldAfter Digest.plain exampleSource [crawlAt "2026-01-01" fun _ => none]
        emptyWorld) := by
  refine attempted_in_window (by decide) ?_ ?_ (by decide) ?_ ?_ _ (by decide)
  · show List.Pairwise Crawl.Before [crawlAt "2026-01-01" fun _ => none,
      crawlAt "2026-01-02" allPages, crawlAt "2026-01-03" allPages]
    simp only [List.pairwise_cons, List.mem_cons, List.not_mem_nil, or_false, forall_eq_or_imp,
      forall_eq, false_imp_iff, implies_true, List.Pairwise.nil, and_true]
    refine ⟨⟨?_, ?_⟩, ?_⟩ <;> exact before_crawlAt (by decide)
  · intro first _ url entry found
    cases found
  · refine ⟨⟨?_, rfl, rfl⟩, ⟨?_, rfl, rfl⟩, trivial⟩ <;>
      · intro collection isCollection
        obtain rfl := Option.some.inj isCollection
        decide
  · refine ⟨⟨?_, ?_⟩, ⟨?_, ?_⟩, trivial⟩
    · exact fun _ _ => rfl
    · exact fun _ _ _ _ _ => nofun
    · exact fun _ _ => rfl
    · exact fun _ _ _ _ _ => nofun

/-- While the fetch of the first page fails, both refreshes attempt it and none the second one. -/
theorem failing_page_starves :
    (exampleSitemap.urls.length : ℤ) ≤ 2 * exampleSitemap.maxUrlsPerRun ∧
      [crawlAt "2026-01-01" notFirst, crawlAt "2026-01-02" notFirst].Pairwise Crawl.Before ∧
      exampleSitemap.Each Digest.plain exampleSource
        (Completes Digest.plain exampleSource exampleSitemap)
        [crawlAt "2026-01-01" notFirst, crawlAt "2026-01-02" notFirst] emptyWorld ∧
      exampleSitemap.attempts Digest.plain exampleSource
        [crawlAt "2026-01-01" notFirst, crawlAt "2026-01-02" notFirst] emptyWorld =
          [text "https://x/a", text "https://x/a"] ∧
      ¬ ∀ url ∈ exampleSitemap.urls, url ∈ exampleSitemap.attempts Digest.plain exampleSource
        [crawlAt "2026-01-01" notFirst, crawlAt "2026-01-02" notFirst] emptyWorld := by
  refine ⟨by decide, ?_, ?_, by decide, by decide⟩
  · exact List.pairwise_pair.mpr (before_crawlAt (by decide))
  · refine ⟨⟨?_, rfl, rfl⟩, ⟨?_, rfl, rfl⟩, trivial⟩ <;>
      · intro collection isCollection
        obtain rfl := Option.some.inj isCollection
        decide

end Rag

end LocalGpuCluster
