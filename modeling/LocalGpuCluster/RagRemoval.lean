/-
This file proves that a refresh removes only what it may: URLs that are gone upstream, few of them
unless an operator approved them, and none that was only left out of a budgeted fetch. After a plan
was applied there is nothing left to do but the uploads that were refused.
-/

import LocalGpuCluster.RagApplied

namespace LocalGpuCluster

namespace Rag

variable {digest : Digest} {source : Source} {run : Run} {collection : Collection} {plan : Plan}
  {world : World} {persisted : Documents} {doc : Document} {url : Url}

/-- The URLs that a refresh takes out of the state. -/
def removed (before after : Documents) : List Url := before.keys.filter (· ∉ after)

/-- The plan was applied to the state, whatever became of the embedding pass. -/
def Status.appliedPlan : Status → Bool
  | .embedInterrupted | .embedError | .applied => true
  | _ => false

/-! ### What stays in the state -/

theorem mem_of_mem_uploads {queue : List Document} {progress : Progress} :
    (∀ url ∈ progress.state,
      url ∈ (queue.foldl (uploadOne digest run persisted) progress).state) ∧
    ((∀ url ∈ progress.saved, url ∈ progress.state) → ∀ url ∈ progress.saved,
      url ∈ (queue.foldl (uploadOne digest run persisted) progress).saved) := by
  induction queue generalizing progress with
  | nil => exact ⟨fun _ => id, fun _ _ => id⟩
  | cons doc rest inductionHypothesis =>
    rw [List.foldl_cons]
    by_cases refused : run.upload doc = .raised
    · rw [uploadOne_raised refused]
      exact inductionHypothesis
    · rw [uploadOne_listed refused]
      constructor
      · exact fun url member => inductionHypothesis.1 url ((AList.mem_insert _).mpr (Or.inr member))
      · intro within url member
        exact inductionHypothesis.2 (fun _ => id) url
          ((AList.mem_insert _).mpr (Or.inr (within url member)))

theorem mem_stampAll {now : Text} {docs : List Document} {state : Documents} :
    url ∈ stampAll now docs state ↔ url ∈ state := by
  rw [← not_iff_not, ← AList.lookup_eq_none, ← AList.lookup_eq_none, lookup_stampAll_eq_none]

theorem mem_uploads_state (member : url ∈ persisted) :
    url ∈ (uploads digest run collection plan persisted).state :=
  mem_of_mem_uploads.1 url (mem_stampAll.mpr member)

theorem mem_uploads_saved (member : url ∈ persisted) :
    url ∈ (uploads digest run collection plan persisted).saved :=
  mem_of_mem_uploads.2 (fun _ => mem_stampAll.mpr) url member

/-- The entry of a URL after the plan was applied. -/
theorem lookup_applyPlan (whole : run.interruptedAfter = none) :
    (applyPlan digest source run collection plan world).2.documents.lookup url =
      if url ∈ plan.removes then none
      else (uploads digest run collection plan world.documents).state.lookup url := by
  rw [← lookup_removals plan world.documents]
  unfold applyPlan
  rw [whole]
  rfl

/-! ### Runs of a refresh -/

/-- A refresh is halted, only shows its plan, or is the apply phase. -/
theorem refreshOne_cases (digest : Digest) (source : Source) (world : World)
    (collected : run.collection = some collection) :
    (∃ status, refreshOne digest source run world = (status, world) ∧
      status.appliedPlan = false ∧ status ≠ .interrupted) ∨
    gate source run (planOf digest source collection world.documents) = none ∧
      refreshOne digest source run world = applyPlan digest source run collection
        (planOf digest source collection world.documents) world := by
  cases passed : gate source run (planOf digest source collection world.documents) with
  | some status =>
    have halted : status = .haltedDrift ∨ status = .haltedSafety := by
      unfold gate at passed
      split at passed <;> split at passed <;> cases passed <;> decide
    refine Or.inl ⟨status, by simp only [refreshOne, collected, passed], ?_⟩
    obtain rfl | rfl := halted <;> decide
  | none =>
    cases mode : run.mode with
    | planOnly =>
      exact Or.inl ⟨.planOnly, by simp only [refreshOne, collected, passed, mode], rfl, nofun⟩
    | dryRun =>
      exact Or.inl ⟨.dryRun, by simp only [refreshOne, collected, passed, mode], rfl, nofun⟩
    | apply =>
      exact Or.inr ⟨rfl, by simp only [refreshOne, collected, passed, mode]⟩

/-- A refresh that is not stopped before applies its plan. -/
inductive Outcome (digest : Digest) (source : Source) (run : Run) (world : World)
    (collection : Collection) : Prop
  | stopped (same : (refreshOne digest source run world).2 = world)
      (status : (refreshOne digest source run world).1.appliedPlan = false)
      (uninterrupted : (refreshOne digest source run world).1 ≠ .interrupted)
  | interrupted
      (passed : gate source run (planOf digest source collection world.documents) = none)
      (same : (refreshOne digest source run world).2.documents =
        (uploads digest run collection (planOf digest source collection world.documents)
          world.documents).saved)
      (status : (refreshOne digest source run world).1.appliedPlan = false)
  | applied (whole : run.interruptedAfter = none)
      (passed : gate source run (planOf digest source collection world.documents) = none)
      (same : refreshOne digest source run world = applyPlan digest source run collection
        (planOf digest source collection world.documents) world)

theorem refreshOne_outcome (collected : run.collection = some collection) :
    Outcome digest source run world collection := by
  obtain ⟨status, same, notApplied, uninterrupted⟩ | ⟨passed, same⟩ :=
    refreshOne_cases digest source world collected
  · refine .stopped (congrArg Prod.snd same) ?_ ?_ <;>
      · rw [same]
        assumption
  · cases whole : run.interruptedAfter with
    | none => exact .applied whole passed same
    | some count =>
      refine .interrupted passed ?_ ?_ <;>
        · rw [same]
          unfold applyPlan
          rw [whole]
          rfl

/-- What a refresh takes out of the state: the removals of its plan, if it applied them. -/
theorem removed_refreshOne (collected : run.collection = some collection) :
    removed world.documents (refreshOne digest source run world).2.documents = [] ∨
      gate source run (planOf digest source collection world.documents) = none ∧
        removed world.documents (refreshOne digest source run world).2.documents =
          (planOf digest source collection world.documents).removes := by
  have outcome : Outcome digest source run world collection := refreshOne_outcome collected
  cases outcome with
  | stopped same =>
    refine Or.inl (List.filter_eq_nil_iff.mpr fun url member gone => ?_)
    rw [same, decide_eq_true_eq] at gone
    exact gone (AList.mem_keys.mpr member)
  | interrupted _ same =>
    refine Or.inl (List.filter_eq_nil_iff.mpr fun url member gone => ?_)
    rw [same, decide_eq_true_eq] at gone
    exact gone (mem_uploads_saved (AList.mem_keys.mpr member))
  | applied whole passed same =>
    refine Or.inr ⟨passed, ?_⟩
    have isRemoved (url : Url) (member : url ∈ world.documents) :
        url ∉ (refreshOne digest source run world).2.documents ↔
          url ∈ (planOf digest source collection world.documents).removes := by
      rw [same, ← AList.lookup_eq_none, lookup_applyPlan whole]
      split
      · rename_i planned
        exact iff_of_true rfl planned
      · rename_i kept
        rw [AList.lookup_eq_none]
        exact iff_of_false (not_not_intro (mem_uploads_state member)) kept
    have filtered : (planOf digest source collection world.documents).removes =
        world.documents.keys.filter
          (· ∈ (planOf digest source collection world.documents).removes) := by
      unfold planOf compute
      dsimp only
      split
      · refine List.filter_congr fun url member => ?_
        simp [member]
      · simp
    rw [filtered]
    refine List.filter_congr fun url member => decide_eq_decide.mpr ?_
    exact isRemoved url (AList.mem_keys.mpr member)

/-! ### The gate -/

theorem safe_iff {maxDeletePct : Float.Model} : plan.safe maxDeletePct = true ↔
    plan.existingCount = 0 ∨ plan.removes.length ≤ 4 ∨ ¬ maxDeletePct < plan.removedShare := by
  unfold Plan.safe
  split
  · rename_i nothing
    exact iff_of_true rfl (Or.inr (Or.inl (by rw [List.isEmpty_iff.mp nothing]; exact Nat.zero_le 4)))
  · split
    · rename_i none
      exact iff_of_true rfl (Or.inl none)
    · rename_i some
      split
      · rename_i few
        exact iff_of_true rfl (Or.inr (Or.inl (Nat.le_of_lt_succ few)))
      · rename_i many
        rw [Bool.not_eq_true', decide_eq_false_iff_not, or_iff_right some, or_iff_right (by omega)]

/-- What passes the gate without an approval removes few. -/
theorem gate_unapproved (unapproved : run.approvedRemoves = none) (passed : gate source run
    (planOf digest source collection persisted) = none) :
    (planOf digest source collection persisted).removes.length ≤ 4 ∨
      ¬ source.maxDeletePct < (planOf digest source collection persisted).removedShare := by
  unfold gate at passed
  rw [unapproved] at passed
  dsimp only at passed
  split at passed
  · rename_i safe
    obtain none | few := safe_iff.mp safe
    · have empty : persisted.keys = [] := List.length_eq_zero_iff.mp none
      refine Or.inl (Nat.le_of_lt_succ ?_)
      have nothing : (planOf digest source collection persisted).removes = [] := by
        unfold planOf compute
        dsimp only
        rw [empty]
        split <;> rfl
      rw [nothing]
      exact Nat.succ_pos 4
    · exact few
  · cases passed

theorem gate_approved {approved : List Url} (isApproved : run.approvedRemoves = some approved)
    (passed : gate source run plan = none) : ∀ url ∈ plan.removes, url ∈ approved := by
  unfold gate at passed
  rw [isApproved] at passed
  dsimp only at passed
  split at passed
  · rename_i within
    exact fun url member => of_decide_eq_true (List.all_eq_true.mp within url member)
  · cases passed

/-! ### The next plan -/

theorem isUpdate_eq_false (add : isAdd persisted doc = true) : isUpdate digest persisted doc = false := by
  rw [isUpdate, AList.lookup_eq_none.mpr (isAdd_iff.mp add)]

theorem mem_uploadQueue : doc ∈ (planOf digest source collection persisted).uploadQueue ↔
    doc ∈ collection.documents ∧
      (isAdd persisted doc = true ∨ isUpdate digest persisted doc = true) := by
  rw [Plan.uploadQueue, List.mem_append, and_or_left]
  exact or_congr List.mem_filter List.mem_filter

/-- A document whose entry is current is not uploaded. -/
theorem notQueued_of_current {entry : Entry}
    (apart : ∀ other ∈ collection.documents, other.url = doc.url → other = doc)
    (found : persisted.lookup doc.url = some entry)
    (isCurrent : entry.hash = some (digest.hashOf doc)) :
    ∀ other ∈ (planOf digest source collection persisted).uploadQueue, other.url ≠ doc.url := by
  intro other queued same
  obtain ⟨otherCollected, change⟩ := mem_uploadQueue.mp queued
  rw [apart other otherCollected same] at change
  obtain add | update := change
  · rw [AList.lookup_eq_none.mpr (isAdd_iff.mp add)] at found
    cases found
  · obtain ⟨prev, isPrev, differs⟩ := isUpdate_iff.mp update
    rw [Option.some.inj (found.symm.trans isPrev)] at isCurrent
    exact differs isCurrent

/-- Each URL is uploaded once. -/
theorem unique_uploadQueue (unique : UniqueUrls collection.documents) :
    UniqueUrls (planOf digest source collection persisted).uploadQueue := by
  have adds : UniqueUrls (planOf digest source collection persisted).adds :=
    unique.sublist List.filter_sublist
  have updates : UniqueUrls (planOf digest source collection persisted).updates :=
    unique.sublist List.filter_sublist
  unfold UniqueUrls Plan.uploadQueue
  rw [List.map_append]
  refine List.nodup_append.mpr ⟨adds, updates, ?_⟩
  rintro _ inAdds _ inUpdates rfl
  obtain ⟨first, isFirst, sameFirst⟩ := List.mem_map.mp inAdds
  obtain ⟨second, isSecond, sameSecond⟩ := List.mem_map.mp inUpdates
  obtain ⟨firstCollected, firstAdd⟩ := List.mem_filter.mp isFirst
  obtain ⟨secondCollected, secondUpdate⟩ := List.mem_filter.mp isSecond
  have same : first = second :=
    unique.eq firstCollected secondCollected (sameFirst.trans sameSecond.symm)
  rw [← same, isUpdate_eq_false firstAdd] at secondUpdate
  cases secondUpdate

/-- The entry of a collected document after the uploads. -/
theorem lookup_uploads (unique : UniqueUrls collection.documents)
    (whole : run.interruptedAfter = none) (member : doc ∈ collection.documents) :
    (uploads digest run collection (planOf digest source collection persisted)
        persisted).state.lookup doc.url =
      if (isAdd persisted doc = true ∨ isUpdate digest persisted doc = true) ∧
          run.upload doc ≠ .raised then some (run.entryOf digest doc)
      else (stampAll run.now collection.documents persisted).lookup doc.url := by
  have queue : run.reachedUploads (planOf digest source collection persisted) =
      (planOf digest source collection persisted).uploadQueue := by
    rw [Run.reachedUploads, whole]
  unfold uploads
  rw [queue]
  split
  · rename_i uploaded
    exact lookup_uploads_of_listed (unique_uploadQueue unique)
      (mem_uploadQueue.mpr ⟨member, uploaded.1⟩) uploaded.2
  · rename_i kept
    refine lookup_uploads_of_raised fun other inQueue same => ?_
    obtain ⟨isCollected, queued⟩ := mem_uploadQueue.mp inQueue
    have isDoc : other = doc := unique.eq isCollected member same
    subst isDoc
    exact Classical.not_not.mp fun listed => kept ⟨queued, listed⟩

/-- What is left to do for a document after the plan was applied: an upload that was refused. -/
theorem left_to_do {documents : Documents} (unique : UniqueUrls collection.documents)
    (member : doc ∈ collection.documents) (whole : run.interruptedAfter = none)
    (same : documents.lookup doc.url =
      (uploads digest run collection (planOf digest source collection persisted)
        persisted).state.lookup doc.url) :
    (isAdd documents doc = true ↔ isAdd persisted doc = true ∧ run.upload doc = .raised) ∧
      (isUpdate digest documents doc = true ↔
        isUpdate digest persisted doc = true ∧ run.upload doc = .raised) := by
  rw [lookup_uploads unique whole member] at same
  split at same
  · rename_i uploaded
    have notAdd : isAdd documents doc = false := by rw [isAdd, same]; rfl
    have notUpdate : isUpdate digest documents doc = false := by
      rw [isUpdate, same]
      exact decide_eq_false (not_not_intro rfl)
    rw [notAdd, notUpdate]
    exact ⟨iff_of_false Bool.false_ne_true fun both => uploaded.2 both.2,
      iff_of_false Bool.false_ne_true fun both => uploaded.2 both.2⟩
  · rename_i kept
    have refused (queued : isAdd persisted doc = true ∨ isUpdate digest persisted doc = true) :
        run.upload doc = .raised := Classical.not_not.mp fun listed => kept ⟨queued, listed⟩
    have sameAdd : isAdd documents doc = isAdd persisted doc := by
      rw [isAdd, isAdd, same, lookup_stampAll, Option.isNone_map]
    have sameUpdate : isUpdate digest documents doc = isUpdate digest persisted doc := by
      rw [isUpdate, isUpdate, same, lookup_stampAll]
      cases persisted.lookup doc.url with
      | none => rfl
      | some entry =>
        show decide ((if _ then _ else _ : Entry).hash ≠ _) = _
        split <;> rfl
    rw [sameAdd, sameUpdate]
    exact ⟨⟨fun add => ⟨add, refused (Or.inl add)⟩, And.left⟩,
      ⟨fun update => ⟨update, refused (Or.inr update)⟩, And.left⟩⟩

/-- A URL of the new state is a URL of the old one that stays, or an uploaded one. -/
theorem mem_uploads_iff (whole : run.interruptedAfter = none)
    (member : url ∈ (uploads digest run collection (planOf digest source collection persisted)
      persisted).state) : url ∈ persisted ∨ ∃ doc ∈ collection.documents, doc.url = url := by
  by_contra neither
  push Not at neither
  obtain ⟨absent, notCollected⟩ := neither
  have raised : ∀ doc ∈ run.reachedUploads (planOf digest source collection persisted),
      doc.url = url → run.upload doc = .raised := by
    intro doc reached same
    rw [Run.reachedUploads, whole] at reached
    exact absurd same (notCollected doc (mem_uploadQueue.mp reached).1)
  have lookup := @lookup_uploads_of_raised digest run persisted url _
    ⟨stampAll run.now collection.documents persisted, persisted, [], []⟩ raised
  have missing : (stampAll run.now collection.documents persisted).lookup url = none :=
    lookup_stampAll_eq_none.mpr (AList.lookup_eq_none.mpr absent)
  exact AList.lookup_eq_none.mp (lookup.trans missing) member

/-- After a plan was applied, the next plan over the same documents is what was refused. -/
theorem planOf_applied (unique : UniqueUrls collection.documents)
    (known : Known collection.documents collection.knownUrls)
    (collected : run.collection = some collection)
    (isApplied : (refreshOne digest source run world).1.appliedPlan = true) :
    let refused := fun doc => decide (run.upload doc = .raised)
    let plan := planOf digest source collection world.documents
    let next := planOf digest source collection (refreshOne digest source run world).2.documents
    next.adds = plan.adds.filter refused ∧ next.updates = plan.updates.filter refused ∧
      next.removes = [] := by
  dsimp only
  have outcome : Outcome digest source run world collection := refreshOne_outcome collected
  cases outcome with
  | stopped _ status => exact absurd (isApplied.symm.trans status) (by decide)
  | interrupted _ _ status => exact absurd (isApplied.symm.trans status) (by decide)
  | applied whole passed same =>
    have entries (url : Url) := @lookup_applyPlan digest source run collection
      (planOf digest source collection world.documents) world url whole
    rw [← same] at entries
    have present (doc : Document) (member : doc ∈ collection.documents) :
        (refreshOne digest source run world).2.documents.lookup doc.url =
          (uploads digest run collection (planOf digest source collection world.documents)
            world.documents).state.lookup doc.url := by
      rw [entries, if_neg]
      exact fun gone => (mem_removes_iff.mp gone).2.2 (known.mem_presentUrls member)
    have left (doc : Document) (member : doc ∈ collection.documents) :=
      left_to_do unique member whole (present doc member)
    refine ⟨?_, ?_, ?_⟩
    · show collection.documents.filter _ = (collection.documents.filter _).filter _
      rw [List.filter_filter]
      refine List.filter_congr fun doc member => ?_
      rw [Bool.eq_iff_iff, (left doc member).1, Bool.and_eq_true, decide_eq_true_eq, and_comm]
    · show collection.documents.filter _ = (collection.documents.filter _).filter _
      rw [List.filter_filter]
      refine List.filter_congr fun doc member => ?_
      rw [Bool.eq_iff_iff, (left doc member).2, Bool.and_eq_true, decide_eq_true_eq, and_comm]
    · refine List.eq_nil_iff_forall_not_mem.mpr fun url gone => ?_
      obtain ⟨missing, inNew, absent⟩ := mem_removes_iff.mp gone
      rw [← AList.lookup_isSome, entries] at inNew
      split at inNew
      · cases inNew
      · rename_i kept
        rw [AList.lookup_isSome] at inNew
        obtain inOld | ⟨doc, member, isUrl⟩ := mem_uploads_iff whole inNew
        · exact kept (mem_removes_iff.mpr ⟨missing, inOld, absent⟩)
        · exact absent (isUrl ▸ known.mem_presentUrls member)

/-! ### A refresh removes only what it may -/

/-- What a refresh does to the state of its source. -/
structure RemovesSafely (digest : Digest) (source : Source) (run : Run) (collection : Collection)
    (world : World) : Prop where
  addsUpdates : ∀ added ∈ (planOf digest source collection world.documents).adds,
    ∀ updated ∈ (planOf digest source collection world.documents).updates, added.url ≠ updated.url
  addsRemoves : ∀ added ∈ (planOf digest source collection world.documents).adds,
    added.url ∉ (planOf digest source collection world.documents).removes
  updatesRemoves : ∀ updated ∈ (planOf digest source collection world.documents).updates,
    updated.url ∉ (planOf digest source collection world.documents).removes
  removes : ∀ url ∈ (planOf digest source collection world.documents).removes,
    url ∈ world.documents ∧ ∀ doc ∈ collection.documents, doc.url ≠ url
  few : run.approvedRemoves = none →
    (removed world.documents (refreshOne digest source run world).2.documents).length ≤ 4 ∨
      ¬ source.maxDeletePct < Float.Model.ofInt
          (removed world.documents (refreshOne digest source run world).2.documents).length /
        Float.Model.ofInt world.documents.keys.length
  approved : ∀ approved ∈ run.approvedRemoves,
    ∀ url ∈ removed world.documents (refreshOne digest source run world).2.documents, url ∈ approved
  enumerated : ∀ url ∈ collection.discoveredUrls, url ∈ world.documents →
    url ∈ (refreshOne digest source run world).2.documents
  left : (refreshOne digest source run world).1.appliedPlan = true →
    (planOf digest source collection (refreshOne digest source run world).2.documents).adds =
        (planOf digest source collection world.documents).adds.filter
          (fun doc => run.upload doc = .raised) ∧
      (planOf digest source collection (refreshOne digest source run world).2.documents).updates =
        (planOf digest source collection world.documents).updates.filter
          (fun doc => run.upload doc = .raised) ∧
      (planOf digest source collection (refreshOne digest source run world).2.documents).removes = []
  settled : (refreshOne digest source run world).1.appliedPlan = true →
    (∀ doc ∈ (planOf digest source collection world.documents).uploadQueue,
      run.upload doc ≠ .raised) →
    (planOf digest source collection
      (refreshOne digest source run world).2.documents).isNoop = true

theorem removes_safely (collected : run.collection = some collection)
    (unique : UniqueUrls collection.documents)
    (known : Known collection.documents collection.knownUrls) :
    RemovesSafely digest source run collection world := by
  have taken : removed world.documents (refreshOne digest source run world).2.documents = [] ∨
      gate source run (planOf digest source collection world.documents) = none ∧
        removed world.documents (refreshOne digest source run world).2.documents =
          (planOf digest source collection world.documents).removes := removed_refreshOne collected
  have gone {url : Url} (member : url ∈ (planOf digest source collection world.documents).removes) :
      url ∈ world.documents ∧ ∀ doc ∈ collection.documents, doc.url ≠ url :=
    ⟨(mem_removes_iff.mp member).2.1, fun doc inDocs same =>
      (mem_removes_iff.mp member).2.2 (same ▸ known.mem_presentUrls inDocs)⟩
  have next := fun isApplied => @planOf_applied digest source run collection world unique known
    collected isApplied
  constructor
  case addsUpdates =>
    intro added inAdds updated inUpdates same
    obtain ⟨addedCollected, isAdded⟩ := List.mem_filter.mp inAdds
    obtain ⟨updatedCollected, isUpdated⟩ := List.mem_filter.mp inUpdates
    rw [← unique.eq addedCollected updatedCollected same, isUpdate_eq_false isAdded] at isUpdated
    cases isUpdated
  case addsRemoves =>
    exact fun added inAdds inRemoves => (gone inRemoves).2 added (List.mem_filter.mp inAdds).1 rfl
  case updatesRemoves =>
    exact fun updated inUpdates inRemoves =>
      (gone inRemoves).2 updated (List.mem_filter.mp inUpdates).1 rfl
  case removes => exact fun _ => gone
  case few =>
    intro unapproved
    obtain nothing | ⟨passed, same⟩ := taken
    · exact Or.inl (by rw [nothing]; exact Nat.zero_le 4)
    · rw [same]
      exact gate_unapproved unapproved passed
  case approved =>
    intro approved isApproved url member
    obtain nothing | ⟨passed, same⟩ := taken
    · exact absurd member (nothing ▸ List.not_mem_nil)
    · exact gate_approved isApproved passed url (same ▸ member)
  case enumerated =>
    intro url enumerated inState
    by_contra absent
    have isRemoved : url ∈
        removed world.documents (refreshOne digest source run world).2.documents :=
      List.mem_filter.mpr ⟨AList.mem_keys.mp inState, decide_eq_true absent⟩
    obtain nothing | ⟨_, same⟩ := taken
    · exact absurd isRemoved (nothing ▸ List.not_mem_nil)
    · have listed : collection.knownUrls = some collection.discoveredUrls :=
        if_neg (by rw [List.isEmpty_iff]; exact List.ne_nil_of_mem enumerated)
      have notPresent := (mem_removes_iff.mp (same ▸ isRemoved)).2.2
      rw [listed] at notPresent
      exact notPresent enumerated
  case left => exact next
  case settled =>
    intro isApplied accepted
    obtain ⟨adds, updates, removes⟩ := next isApplied
    have nothing (docs : List Document) (within : ∀ doc ∈ docs, run.upload doc ≠ .raised) :
        docs.filter (fun doc => run.upload doc = .raised) = [] :=
      List.filter_eq_nil_iff.mpr fun doc member => by simpa using within doc member
    rw [Plan.isNoop, adds, updates, removes,
      nothing _ fun doc member => accepted doc (List.mem_append_left _ member),
      nothing _ fun doc member => accepted doc (List.mem_append_right _ member)]
    rfl

/-! ### A refresh with all kinds of changes -/

/-- A digest that keeps the text. -/
def Digest.plain : Digest := ⟨id⟩

/-- A source whose documents may be removed up to a tenth. -/
def exampleSource : Source := ⟨text "full", Float.Model.ofInt 1 / Float.Model.ofInt 10, 200⟩

def exampleEntry (content path : String) : Entry :=
  ⟨some (Digest.plain.contentHash (text content)), text "2026-01-01T00:00:00Z", some (text path)⟩

/-- A page that stays, one that changes and one that goes. -/
def exampleWorld : World where
  documents := List.toAList [⟨text "https://x/a", exampleEntry "same" "raw-a.json"⟩,
    ⟨text "https://x/b", exampleEntry "before" "raw-b.json"⟩,
    ⟨text "https://x/c", exampleEntry "gone" "raw-c.json"⟩]
  attached := ["raw-a.json", "raw-b.json", "raw-c.json"].map text

def exampleCollection : Collection where
  documents := [⟨text "https://x/a", text "same"⟩, ⟨text "https://x/b", text "after"⟩,
    ⟨text "https://x/d", text "new"⟩]
  discoveredUrls := []

/-- A run in which every call succeeds. -/
def exampleRun : Run where
  collection := some exampleCollection
  approvedRemoves := none
  mode := .apply
  now := text "2026-02-01T00:00:00Z"
  clock := fun _ => text "2026-02-01T00:00:01Z"
  upload := fun doc => .listed (some (text "raw-new-" ++ doc.content))
  interruptedAfter := none
  embed := fun _ => .done

theorem example_removes_safely :
    RemovesSafely Digest.plain exampleSource exampleRun exampleCollection exampleWorld :=
  removes_safely rfl (by unfold UniqueUrls; decide) fun _ member => by cases member

end Rag

end LocalGpuCluster
