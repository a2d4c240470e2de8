/-
This file proves that a refresh does not heal an earlier one that broke off. An upload writes the hash
of the document to the state before the document is attached, and a later plan only compares hashes.
The document is unchanged to every later plan, so it stays unattached for as long as upstream stays
as it is.
-/

import LocalGpuCluster.RagAttached

namespace LocalGpuCluster

namespace Rag

variable {digest : Digest} {source : Source} {run : Run} {collection : Collection}
  {world after : World} {upstream : List Document} {doc : Document} {url : Url} {path : Path}

/-- What a source yields while upstream stays as it is: all of its documents, or a part of them. -/
structure SeesUpstream (upstream : List Document) (collection : Collection) : Prop where
  unique : UniqueUrls collection.documents
  collected : ∀ doc ∈ collection.documents, doc ∈ upstream
  present : ∀ doc ∈ upstream, doc.url ∈ presentUrls collection.documents collection.knownUrls

/-- The attached documents are those of the state, and each document upstream has one. -/
structure Healed (upstream : List Document) (world : World) : Prop where
  attached_iff : ∀ path, path ∈ world.attached ↔ ∃ url, storedPath world.documents url = some path
  copies : ∀ doc ∈ upstream, ∃ path, storedPath world.documents doc.url = some path

/-- A run that failed or was interrupted after a document was uploaded and before it was attached. -/
structure BreaksOff (digest : Digest) (source : Source) (run : Run) (collection : Collection)
    (world : World) (doc : Document) : Prop where
  status : (refreshOne digest source run world).1 ∈
    [Status.interrupted, .embedInterrupted, .embedError]
  reached : doc ∈ run.reachedUploads (planOf digest source collection world.documents)
  accepted : run.upload doc ≠ .raised
  unattached : ∀ path ∈ run.listedPath doc, path ∉ (refreshOne digest source run world).2.attached

/-- The paths that the uploads list are new ones. -/
def NewPaths (run : Run) (plan : Plan) (world : World) : Prop :=
  ∀ path ∈ plan.uploadQueue.filterMap run.listedPath,
    path ∉ world.attached ∧ ∀ url, storedPath world.documents url ≠ some path

/-- Any number of refreshes while upstream stays as it is. -/
inductive Refreshed (digest : Digest) (source : Source) (upstream : List Document) :
    World → World → Prop
  | refl (world : World) : Refreshed digest source upstream world world
  | step {world after : World} (run : Run)
      (sees : ∀ collection ∈ run.collection, SeesUpstream upstream collection)
      (new : ∀ collection ∈ run.collection,
        NewPaths run (planOf digest source collection world.documents) world)
      (rest : Refreshed digest source upstream (refreshOne digest source run world).2 after) :
      Refreshed digest source upstream world after

/-- The state holds the current hash of the document, and its copy is not attached. -/
def Stranded (digest : Digest) (doc : Document) (world : World) : Prop :=
  ∃ entry, world.documents.lookup doc.url = some entry ∧ entry.hash = some (digest.hashOf doc) ∧
    ∀ path ∈ entry.allmDocPath, path ∉ world.attached

/-! ### The run that breaks off -/

/-- What was uploaded was collected. -/
theorem mem_of_mem_reachedUploads
    (reached : doc ∈ run.reachedUploads (planOf digest source collection world.documents)) :
    doc ∈ (planOf digest source collection world.documents).uploadQueue := by
  unfold Run.reachedUploads at reached
  split at reached
  · exact reached
  · exact List.mem_of_mem_take reached

theorem sublist_reachedUploads (plan : Plan) : (run.reachedUploads plan).Sublist plan.uploadQueue := by
  unfold Run.reachedUploads
  split
  · exact List.Sublist.refl _
  · exact List.take_sublist _ _

/-- A document that was uploaded and not attached is stranded. -/
theorem stranded_of_breaksOff (collected : run.collection = some collection)
    (sees : SeesUpstream upstream collection)
    (breaks : BreaksOff digest source run collection world doc) :
    Stranded digest doc (refreshOne digest source run world).2 := by
  have inQueue := mem_of_mem_reachedUploads breaks.reached
  refine ⟨run.entryOf digest doc, ?_, rfl, breaks.unattached⟩
  have uploaded : (uploads digest run collection
      (planOf digest source collection world.documents) world.documents).state.lookup doc.url =
        some (run.entryOf digest doc) :=
    lookup_uploads_of_listed ((unique_uploadQueue sees.unique).sublist (sublist_reachedUploads _))
      breaks.reached breaks.accepted
  have outcome : Outcome digest source run world collection := refreshOne_outcome collected
  cases outcome with
  | stopped _ notApplied uninterrupted =>
    have status := breaks.status
    simp only [List.mem_cons, List.not_mem_nil, or_false] at status
    obtain isStatus | isStatus | isStatus := status
    · exact absurd isStatus uninterrupted
    · rw [isStatus] at notApplied; cases notApplied
    · rw [isStatus] at notApplied; cases notApplied
  | interrupted _ same _ =>
    rw [same, ← uploaded]
    exact congrArg (AList.lookup doc.url)
      (saved_uploads (Or.inr ⟨doc, breaks.reached, breaks.accepted⟩))
  | applied whole _ same =>
    have kept : doc.url ∉ (planOf digest source collection world.documents).removes := fun gone =>
      (mem_removes_iff.mp gone).2.2 (sees.present doc
        (sees.collected doc (mem_uploadQueue.mp inQueue).1))
    rw [same, lookup_applyPlan whole, if_neg kept, uploaded]

/-! ### A later refresh -/

/-- A path that no upload lists is attached by no refresh. -/
theorem not_mem_refreshOne (collected : run.collection = some collection)
    (absent : path ∉ world.attached)
    (notListed : ∀ doc ∈ (planOf digest source collection world.documents).uploadQueue,
      run.listedPath doc ≠ some path) : path ∉ (refreshOne digest source run world).2.attached := by
  obtain ⟨status, same, _⟩ | ⟨_, same⟩ := refreshOne_cases digest source world collected
  · rw [same]
    exact absent
  · rw [same]
    unfold applyPlan
    dsimp only
    cases whole : run.interruptedAfter with
    | some count => exact absent
    | none =>
      refine not_mem_embedPass absent fun added => ?_
      have inAdds : path ∈ (theProgress digest source run collection world).adds := added
      rw [adds_eq whole] at inAdds
      obtain ⟨other, queued, listed⟩ := List.mem_filterMap.mp inAdds
      exact notListed other queued listed

/-- Without an upload that is accepted, the state file is as it was. -/
theorem saved_uploads_of_raised {persisted : Documents} {queue : List Document} {progress : Progress}
    (raised : ∀ doc ∈ queue, run.upload doc = .raised) :
    queue.foldl (uploadOne digest run persisted) progress = progress := by
  induction queue with
  | nil => rfl
  | cons head rest inductionHypothesis =>
    rw [List.foldl_cons, uploadOne_raised (raised head List.mem_cons_self)]
    exact inductionHypothesis fun other member => raised other (List.mem_cons_of_mem _ member)

/-- The entry of a URL that is neither uploaded nor removed keeps its hash and its path. -/
theorem lookup_refreshOne (collected : run.collection = some collection) {entry : Entry}
    (found : world.documents.lookup url = some entry)
    (kept : url ∉ (planOf digest source collection world.documents).removes)
    (notQueued : ∀ doc ∈ (planOf digest source collection world.documents).uploadQueue,
      doc.url ≠ url) :
    ∃ time, (refreshOne digest source run world).2.documents.lookup url =
      some { entry with lastFetched := time } := by
  have outcome : Outcome digest source run world collection := refreshOne_outcome collected
  cases outcome with
  | stopped same => exact ⟨entry.lastFetched, by rw [same, found]⟩
  | interrupted _ same =>
    rw [same]
    have apart : ∀ doc ∈ run.reachedUploads (planOf digest source collection world.documents),
        doc.url = url → run.upload doc = .raised := fun doc reached isUrl =>
      absurd isUrl (notQueued doc (mem_of_mem_reachedUploads reached))
    by_cases accepted : ∃ doc ∈ run.reachedUploads
        (planOf digest source collection world.documents), run.upload doc ≠ .raised
    · have stored : (uploads digest run collection (planOf digest source collection world.documents)
          world.documents).saved = _ := saved_uploads (Or.inr accepted)
      rw [stored, lookup_uploads_of_raised apart, lookup_stampAll, found]
      refine ⟨if url ∈ collection.documents.map Document.url then run.now else entry.lastFetched, ?_⟩
      show some (if _ then _ else _ : Entry) = _
      split <;> rfl
    · push Not at accepted
      have unchanged : uploads digest run collection
          (planOf digest source collection world.documents) world.documents = _ :=
        saved_uploads_of_raised accepted
      rw [unchanged]
      exact ⟨entry.lastFetched, found⟩
  | applied whole _ same =>
    obtain ⟨time, after⟩ := @lookup_kept digest source run collection world url whole kept notQueued
    rw [found] at after
    exact ⟨time entry, by rw [same]; exact after⟩

/-- A refresh does not reach a stranded document. -/
theorem Stranded.refreshOne (unique : UniqueUrls upstream) (member : doc ∈ upstream)
    (sees : ∀ collection ∈ run.collection, SeesUpstream upstream collection)
    (new : ∀ collection ∈ run.collection,
      NewPaths run (planOf digest source collection world.documents) world)
    (stranded : Stranded digest doc world) :
    Stranded digest doc (refreshOne digest source run world).2 := by
  obtain ⟨entry, found, isCurrent, unattached⟩ := stranded
  cases collected : run.collection with
  | none =>
    have same : (Rag.refreshOne digest source run world).2 = world := by
      rw [Rag.refreshOne, collected]
    rw [same]
    exact ⟨entry, found, isCurrent, unattached⟩
  | some collection =>
    have seen := sees collection collected
    have apart : ∀ other ∈ collection.documents, other.url = doc.url → other = doc :=
      fun other collected same => unique.eq (seen.collected other collected) member same
    have kept : doc.url ∉ (planOf digest source collection world.documents).removes := fun gone =>
      (mem_removes_iff.mp gone).2.2 (seen.present doc member)
    obtain ⟨time, after⟩ := lookup_refreshOne collected found kept
      (notQueued_of_current apart found isCurrent)
    refine ⟨_, after, isCurrent, fun path isPath => ?_⟩
    refine not_mem_refreshOne collected (unattached path isPath) fun other queued listed => ?_
    exact (new collection collected path (List.mem_filterMap.mpr ⟨other, queued, listed⟩)).2 doc.url
      (storedPath_eq_some.mpr ⟨entry, found, isPath⟩)

theorem Stranded.refreshed (unique : UniqueUrls upstream) (member : doc ∈ upstream)
    (refreshed : Refreshed digest source upstream world after) (stranded : Stranded digest doc world) :
    Stranded digest doc after := by
  induction refreshed with
  | refl => exact stranded
  | step run sees new _ inductionHypothesis =>
    exact inductionHypothesis (stranded.refreshOne unique member sees new)

/-- A stranded document has no attached copy. -/
theorem Stranded.not_healed (member : doc ∈ upstream) (stranded : Stranded digest doc world) :
    ¬ Healed upstream world := by
  intro healed
  obtain ⟨entry, found, _, unattached⟩ := stranded
  obtain ⟨path, stored⟩ := healed.copies doc member
  obtain ⟨other, isOther, isPath⟩ := storedPath_eq_some.mp stored
  rw [← Option.some.inj (found.symm.trans isOther)] at isPath
  exact unattached path isPath ((healed.attached_iff path).mpr ⟨doc.url, stored⟩)

/-- Whatever the refreshes after a run that broke off meet, they do not heal it. -/
theorem never_healed (unique : UniqueUrls upstream) (collected : run.collection = some collection)
    (sees : SeesUpstream upstream collection)
    (breaks : BreaksOff digest source run collection world doc)
    (refreshed : Refreshed digest source upstream (refreshOne digest source run world).2 after) :
    ¬ Healed upstream after := by
  have member : doc ∈ upstream := sees.collected doc
    (mem_uploadQueue.mp (mem_of_mem_reachedUploads breaks.reached)).1
  have stranded := stranded_of_breaksOff collected sees breaks
  exact (stranded.refreshed unique member refreshed).not_healed member

/-! ### A failed embedding pass and a refresh after it -/

def emptyWorld : World := ⟨∅, []⟩

/-- The embedding pass fails before the server reached anything. -/
def failingRun : Run :=
  { adoptedRun with embed := fun _ => .failed false fun _ => false }

theorem example_sees : SeesUpstream adoptedCollection.documents adoptedCollection where
  unique := by unfold UniqueUrls; decide
  collected := fun _ => id
  present := by decide

theorem example_never_healed :
    ¬ Healed adoptedCollection.documents (refreshOne Digest.plain exampleSource adoptedRun
      (refreshOne Digest.plain exampleSource failingRun emptyWorld).2).2 := by
  refine @never_healed Digest.plain exampleSource failingRun adoptedCollection emptyWorld _ _
    ⟨text "https://x/a", text "same"⟩ example_sees.unique rfl example_sees ?_ ?_
  · exact ⟨by decide, by decide, by nofun, by decide⟩
  · refine .step adoptedRun ?_ ?_ (.refl _)
    · intro collection isCollection
      obtain rfl := Option.some.inj isCollection
      exact example_sees
    · intro collection isCollection path listed
      obtain rfl := Option.some.inj isCollection
      exact absurd listed (by rw [show List.filterMap _ _ = [] by decide]; nofun)

/-- The second refresh finds nothing to do, so the page is never attached. -/
theorem refresh_does_not_attach :
    (refreshOne Digest.plain exampleSource failingRun emptyWorld).1 = .embedError ∧
      (refreshOne Digest.plain exampleSource adoptedRun
        (refreshOne Digest.plain exampleSource failingRun emptyWorld).2).1 = .applied ∧
      (refreshOne Digest.plain exampleSource adoptedRun
        (refreshOne Digest.plain exampleSource failingRun emptyWorld).2).2.attached = [] ∧
      ¬ Healed adoptedCollection.documents (refreshOne Digest.plain exampleSource adoptedRun
        (refreshOne Digest.plain exampleSource failingRun emptyWorld).2).2 := by
  refine ⟨by decide, by decide, by decide, fun healed => ?_⟩
  have stored : storedPath (refreshOne Digest.plain exampleSource adoptedRun
      (refreshOne Digest.plain exampleSource failingRun emptyWorld).2).2.documents
        (text "https://x/a") = some (text "raw-new-same") := by decide
  exact absurd ((healed.attached_iff _).mpr ⟨_, stored⟩) (by decide)

end Rag

end LocalGpuCluster
