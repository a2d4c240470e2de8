/-
This file proves when a refresh leaves one attached copy of each document. The old copy of an updated
document is detached only if its upload listed a path and the entry was not adopted by the migration,
so an adopted document keeps its old copy beside the new one.
-/

import LocalGpuCluster.RagRemoval

namespace LocalGpuCluster

namespace Rag

variable {digest : Digest} {source : Source} {run : Run} {collection : Collection}
  {world : World} {persisted : Documents} {doc : Document} {url : Url} {path : Path}

/-- The state and the workspace are in step. -/
structure Tracked (world : World) : Prop where
  attached_iff : ∀ path, path ∈ world.attached ↔ ∃ url, storedPath world.documents url = some path
  distinct : ∀ first second path, storedPath world.documents first = some path →
    storedPath world.documents second = some path → first = second
  rows : world.attached.Nodup

/-- What a refresh meets when no call fails. A path that an upload lists is a new one. -/
structure Succeeds (run : Run) (plan : Plan) (world : World) : Prop where
  accepted : ∀ doc ∈ plan.uploadQueue, run.upload doc ≠ .raised
  whole : run.interruptedAfter = none
  embeds : run.Embeds
  fresh : ∀ path ∈ plan.uploadQueue.filterMap run.listedPath, path ∉ world.attached
  apart : (plan.uploadQueue.filterMap run.listedPath).Nodup

/-- Every upload lists a path, no updated document was adopted with a copy, and every unchanged
document has one. -/
structure ReplacesCopies (digest : Digest) (run : Run) (collection : Collection) (plan : Plan)
    (persisted : Documents) : Prop where
  listed : ∀ doc ∈ plan.uploadQueue, (run.listedPath doc).isSome = true
  notAdopted : ∀ doc ∈ plan.updates, ∀ prev ∈ persisted.lookup doc.url,
    prev.hash = some migratedHash → prev.allmDocPath = none
  unchanged : ∀ doc ∈ collection.documents, ∀ prev ∈ persisted.lookup doc.url,
    prev.hash = some (digest.hashOf doc) → prev.allmDocPath ≠ none

/-! ### The paths of the new state -/

/-- A stored path comes from an entry. -/
theorem storedPath_eq_some : storedPath persisted url = some path ↔
    ∃ entry, persisted.lookup url = some entry ∧ entry.allmDocPath = some path :=
  Option.bind_eq_some_iff

section AfterApply

variable (digest source run collection world)

/-- The plan of the refresh. -/
abbrev thePlan : Plan := planOf digest source collection world.documents

/-- The state and the workspace after the apply phase. -/
abbrev theWorld : World := (applyPlan digest source run collection
  (thePlan digest source collection world) world).2

end AfterApply

variable (unique : UniqueUrls collection.documents)
  (known : Known collection.documents collection.knownUrls)

include unique known in
/-- An uploaded document has the path that its upload listed. -/
theorem storedPath_uploaded (whole : run.interruptedAfter = none)
    (queued : doc ∈ (thePlan digest source collection world).uploadQueue)
    (accepted : run.upload doc ≠ .raised) :
    (theWorld digest source run collection world).documents.lookup doc.url =
      some (run.entryOf digest doc) := by
  obtain ⟨member, change⟩ := mem_uploadQueue.mp queued
  have kept : doc.url ∉ (thePlan digest source collection world).removes := fun gone =>
    (mem_removes_iff.mp gone).2.2 (known.mem_presentUrls member)
  rw [lookup_applyPlan whole, if_neg kept, lookup_uploads unique whole member,
    if_pos ⟨change, accepted⟩]

/-- The other entries that stay keep their paths and hashes. -/
theorem lookup_kept (whole : run.interruptedAfter = none)
    (kept : url ∉ (thePlan digest source collection world).removes)
    (notQueued : ∀ doc ∈ (thePlan digest source collection world).uploadQueue, doc.url ≠ url) :
    ∃ time : Entry → Text, (theWorld digest source run collection world).documents.lookup url =
      (world.documents.lookup url).map fun entry => { entry with lastFetched := time entry } := by
  have raised : ∀ doc ∈ run.reachedUploads (thePlan digest source collection world),
      doc.url = url → run.upload doc = .raised := by
    intro doc reached same
    rw [Run.reachedUploads, whole] at reached
    exact absurd same (notQueued doc reached)
  refine ⟨fun entry =>
    if url ∈ collection.documents.map Document.url then run.now else entry.lastFetched, ?_⟩
  rw [lookup_applyPlan whole, if_neg kept, uploads, lookup_uploads_of_raised raised,
    lookup_stampAll]
  congr 1
  funext entry
  split <;> rfl

/-- A path that is queued for removal is that of an updated document. -/
theorem queuedRemoval_eq_some (queued : run.queuedRemoval persisted doc = some path) :
    storedPath persisted doc.url = some path ∧ (run.listedPath doc).isSome = true ∧
      ∀ prev ∈ persisted.lookup doc.url, prev.hash ≠ some migratedHash := by
  unfold Run.queuedRemoval at queued
  split at queued
  · rename_i listed
    obtain ⟨prev, found, replaced⟩ := Option.bind_eq_some_iff.mp queued
    split at replaced
    · rename_i notAdopted
      refine ⟨storedPath_eq_some.mpr ⟨prev, found, replaced⟩, listed, fun other isOther => ?_⟩
      rw [Option.some.inj (isOther.symm.trans found)]
      exact notAdopted
    · cases replaced
  · cases queued

section Progress

variable (digest source run collection world)

/-- What the apply phase has gathered before the embedding pass. -/
abbrev theProgress : Progress :=
  removals (thePlan digest source collection world) world.documents
    (uploads digest run collection (thePlan digest source collection world) world.documents)

end Progress

theorem attached_eq (whole : run.interruptedAfter = none) :
    (theWorld digest source run collection world).attached =
      (embedPass source run (theProgress digest source run collection world) world.attached).2 := by
  unfold theWorld applyPlan
  rw [whole]
  rfl

theorem adds_eq (whole : run.interruptedAfter = none) :
    (theProgress digest source run collection world).adds =
      (thePlan digest source collection world).uploadQueue.filterMap run.listedPath := by
  rw [adds_removals, uploads, adds_uploads, Run.reachedUploads, whole]
  rfl

theorem removes_eq (whole : run.interruptedAfter = none) :
    (theProgress digest source run collection world).removes =
      (thePlan digest source collection world).uploadQueue.filterMap
          (run.queuedRemoval world.documents) ++
        (thePlan digest source collection world).removes.filterMap (storedPath world.documents) := by
  rw [removes_removals, uploads, removes_uploads, Run.reachedUploads, whole]
  rfl

/-- What is attached after an apply phase that meets no failure. -/
theorem mem_attached_iff (tracked : Tracked world)
    (succeeds : Succeeds run (thePlan digest source collection world) world) :
    path ∈ (theWorld digest source run collection world).attached ↔
      path ∈ world.attached ∧
          (∀ doc ∈ (thePlan digest source collection world).uploadQueue,
            run.queuedRemoval world.documents doc ≠ some path) ∧
          (∀ url ∈ (thePlan digest source collection world).removes,
            storedPath world.documents url ≠ some path) ∨
        ∃ doc ∈ (thePlan digest source collection world).uploadQueue,
          run.listedPath doc = some path := by
  have old : ∀ path ∈ (theProgress digest source run collection world).removes,
      path ∈ world.attached := by
    intro path member
    rw [removes_eq succeeds.whole] at member
    rw [tracked.attached_iff]
    obtain replaced | gone := List.mem_append.mp member
    · obtain ⟨doc, _, queued⟩ := List.mem_filterMap.mp replaced
      exact ⟨doc.url, (queuedRemoval_eq_some queued).1⟩
    · obtain ⟨url, _, stored⟩ := List.mem_filterMap.mp gone
      exact ⟨url, stored⟩
  rw [attached_eq succeeds.whole, mem_embedPass succeeds.embeds, removes_eq succeeds.whole,
    adds_eq succeeds.whole]
  · rw [List.mem_append, not_or, List.mem_filterMap, List.mem_filterMap, List.mem_filterMap]
    push Not
    rfl
  · intro added inAdds inRemoves
    rw [adds_eq succeeds.whole] at inAdds
    exact succeeds.fresh added inAdds (old added inRemoves)

/-! ### One copy of each document -/

/-- The URL of a document that is uploaded is not removed. -/
theorem Known.notRemoved (known : Known collection.documents collection.knownUrls)
    (member : doc ∈ collection.documents) :
    doc.url ∉ (thePlan digest source collection world).removes := fun gone =>
  (mem_removes_iff.mp gone).2.2 (known.mem_presentUrls member)

/-- An updated document that replaces its copy queues its old path. -/
theorem queuedRemoval_of_replaces
    (replaces : ReplacesCopies digest run collection (thePlan digest source collection world)
      world.documents)
    (queued : doc ∈ (thePlan digest source collection world).uploadQueue)
    (stored : storedPath world.documents doc.url = some path) :
    run.queuedRemoval world.documents doc = some path := by
  obtain ⟨prev, found, isPath⟩ := storedPath_eq_some.mp stored
  have isUpdated : doc ∈ (thePlan digest source collection world).updates := by
    obtain add | update := List.mem_append.mp queued
    · have absent := AList.lookup_eq_none.mpr (isAdd_iff.mp (List.mem_filter.mp add).2)
      rw [absent] at found
      cases found
    · exact update
  have notAdopted : prev.hash ≠ some migratedHash := fun adopted => by
    rw [replaces.notAdopted doc isUpdated prev found adopted] at isPath
    cases isPath
  rw [Run.queuedRemoval, if_pos (replaces.listed doc queued), replacedPath, found]
  show (if _ then _ else _) = _
  rw [if_pos notAdopted, isPath]

/-- The path of a document that is updated or removed is attached no more. -/
theorem ReplacesCopies.detached (tracked : Tracked world)
    (succeeds : Succeeds run (thePlan digest source collection world) world)
    (replaces : ReplacesCopies digest run collection (thePlan digest source collection world)
      world.documents)
    (stored : storedPath world.documents url = some path)
    (queuedOrGone : (∃ doc ∈ (thePlan digest source collection world).uploadQueue, doc.url = url) ∨
      url ∈ (thePlan digest source collection world).removes) :
    path ∉ (theWorld digest source run collection world).attached := by
  rw [mem_attached_iff tracked succeeds]
  rintro (⟨_, notReplaced, notRemoved⟩ | ⟨doc, queued, listed⟩)
  · obtain ⟨doc, queued, rfl⟩ | gone := queuedOrGone
    · exact notReplaced doc queued (queuedRemoval_of_replaces replaces queued stored)
    · exact notRemoved url gone stored
  · exact succeeds.fresh path (List.mem_filterMap.mpr ⟨doc, queued, listed⟩)
      ((tracked.attached_iff path).mpr ⟨url, stored⟩)

def adoptedCollection : Collection where
  documents := [⟨text "https://x/a", text "same"⟩]
  discoveredUrls := []

def adoptedRun : Run := { exampleRun with collection := some adoptedCollection }

end Rag

end LocalGpuCluster
