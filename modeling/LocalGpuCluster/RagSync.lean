/-
This file follows a source over any number of refreshes from an empty workspace on. Collecting may fail, the
plan may be held back, and single uploads may be refused. As long as the other calls succeed, what is
attached is what the state file stores, each document once, and an applied refresh leaves every document
that it could upload attached with its current content.
-/

import LocalGpuCluster.Machine
import LocalGpuCluster.RagAttached

namespace LocalGpuCluster

namespace Rag

variable {digest : Digest} {source : Source} {run : Run} {collection : Collection}
  {world : World} {doc : Document} {url : Url} {path : Path}

/-- Nothing was ever refreshed. -/
def World.empty : World := ⟨∅, []⟩

/-- No call fails but uploads and the collection. What an upload lists is a new path. -/
structure Gentle (world : World) (run : Run) : Prop where
  unique : ∀ collection, run.collection = some collection → UniqueUrls collection.documents
  known : ∀ collection, run.collection = some collection →
    Known collection.documents collection.knownUrls
  whole : run.interruptedAfter = none
  embeds : run.Embeds
  lists : ∀ doc, run.upload doc ≠ .raised → (run.listedPath doc).isSome = true
  fresh : ∀ doc path, run.listedPath doc = some path → path ∉ world.attached
  apart : ∀ doc other path, run.listedPath doc = some path → run.listedPath other = some path →
    doc = other

/-- The state and the workspace are in step, and every entry is one of an upload. -/
structure Synced (world : World) : Prop where
  tracked : Tracked world
  uploaded : ∀ url entry, world.documents.lookup url = some entry →
    (entry.allmDocPath).isSome = true ∧ entry.hash ≠ some migratedHash

theorem raised_iff (gentle : Gentle world run) :
    run.upload doc = .raised ↔ run.listedPath doc = none := by
  constructor
  · intro raised
    rw [Run.listedPath, raised]
  · intro missing
    by_contra accepted
    have lists := gentle.lists doc accepted
    rw [missing] at lists
    cases lists

/-- An entry of the new state is that of an upload, or an old one with another time. -/
inductive Origin (digest : Digest) (source : Source) (run : Run) (collection : Collection)
    (world : World) (url : Url) (entry : Entry) : Prop
  | uploaded (doc : Document) (queued : doc ∈ (thePlan digest source collection world).uploadQueue)
      (same : doc.url = url) (accepted : run.upload doc ≠ .raised)
      (isEntry : entry = run.entryOf digest doc)
  | kept (stays : url ∉ (thePlan digest source collection world).removes)
      (refused : ∀ doc ∈ (thePlan digest source collection world).uploadQueue, doc.url = url →
        run.upload doc = .raised)
      (prev : Entry) (found : world.documents.lookup url = some prev) (hash : entry.hash = prev.hash)
      (isPath : entry.allmDocPath = prev.allmDocPath)

/-- A URL that stays and has no upload keeps its entry up to the time. -/
theorem lookup_refused (whole : run.interruptedAfter = none)
    (stays : url ∉ (thePlan digest source collection world).removes)
    (refused : ∀ doc ∈ (thePlan digest source collection world).uploadQueue, doc.url = url →
      run.upload doc = .raised) :
    ∃ time : Entry → Text, (theWorld digest source run collection world).documents.lookup url =
      (world.documents.lookup url).map fun entry => { entry with lastFetched := time entry } := by
  have raised : ∀ doc ∈ run.reachedUploads (thePlan digest source collection world),
      doc.url = url → run.upload doc = .raised := by
    intro doc reached same
    rw [Run.reachedUploads, whole] at reached
    exact refused doc reached same
  refine ⟨fun entry =>
    if url ∈ collection.documents.map Document.url then run.now else entry.lastFetched, ?_⟩
  rw [lookup_applyPlan whole, if_neg stays, uploads, lookup_uploads_of_raised raised, lookup_stampAll]
  congr 1
  funext entry
  split <;> rfl

theorem origin (gentle : Gentle world run) (collected : run.collection = some collection) {entry : Entry}
    (found : (theWorld digest source run collection world).documents.lookup url = some entry) :
    Origin digest source run collection world url entry := by
  by_cases uploaded : ∃ doc ∈ (thePlan digest source collection world).uploadQueue,
      doc.url = url ∧ run.upload doc ≠ .raised
  · obtain ⟨doc, queued, rfl, accepted⟩ := uploaded
    rw [storedPath_uploaded (gentle.unique _ collected) (gentle.known _ collected) gentle.whole queued
      accepted] at found
    exact .uploaded doc queued rfl accepted (Option.some.inj found).symm
  · push Not at uploaded
    have stays : url ∉ (thePlan digest source collection world).removes := fun gone => by
      rw [lookup_applyPlan gentle.whole, if_pos gone] at found
      cases found
    obtain ⟨time, same⟩ := @lookup_refused digest source run collection world url gentle.whole stays
      uploaded
    rw [same] at found
    obtain ⟨prev, isPrev, rfl⟩ := Option.map_eq_some_iff.mp found
    exact .kept stays uploaded prev isPrev rfl rfl

/-- Where a stored path comes from. -/
theorem origin_path (gentle : Gentle world run) (collected : run.collection = some collection)
    (stored : storedPath (theWorld digest source run collection world).documents url = some path) :
    (∃ doc ∈ (thePlan digest source collection world).uploadQueue, doc.url = url ∧
        run.listedPath doc = some path) ∨
      url ∉ (thePlan digest source collection world).removes ∧
        (∀ doc ∈ (thePlan digest source collection world).uploadQueue, doc.url = url →
          run.upload doc = .raised) ∧ storedPath world.documents url = some path := by
  obtain ⟨entry, found, isPath⟩ := storedPath_eq_some.mp stored
  cases origin gentle collected found with
  | uploaded doc queued same accepted isEntry =>
    rw [isEntry] at isPath
    exact .inl ⟨doc, queued, same, isPath⟩
  | kept stays refused prev isPrev hash samePath =>
    exact .inr ⟨stays, refused, storedPath_eq_some.mpr ⟨prev, isPrev, samePath ▸ isPath⟩⟩

/-! ### What is attached after it -/

/-- What the embedding pass detaches is stored for a URL that was uploaded or removed. -/
theorem mem_detached_iff (gentle : Gentle world run) (synced : Synced world) :
    path ∈ (theProgress digest source run collection world).removes ↔
      ∃ url, storedPath world.documents url = some path ∧
        ((∃ doc ∈ (thePlan digest source collection world).uploadQueue, doc.url = url ∧
            run.upload doc ≠ .raised) ∨
          url ∈ (thePlan digest source collection world).removes) := by
  rw [removes_eq gentle.whole, List.mem_append, List.mem_filterMap, List.mem_filterMap]
  constructor
  · rintro (⟨doc, queued, removal⟩ | ⟨url, gone, stored⟩)
    · obtain ⟨stored, listed, _⟩ := queuedRemoval_eq_some removal
      refine ⟨doc.url, stored, .inl ⟨doc, queued, rfl, fun raised => ?_⟩⟩
      rw [(raised_iff gentle).mp raised] at listed
      cases listed
    · exact ⟨url, stored, .inr gone⟩
  · rintro ⟨_, stored, ⟨doc, queued, rfl, accepted⟩ | gone⟩
    · obtain ⟨prev, found, isPath⟩ := storedPath_eq_some.mp stored
      refine .inl ⟨doc, queued, ?_⟩
      rw [Run.queuedRemoval, if_pos (gentle.lists doc accepted), replacedPath, found]
      show (if _ then _ else _) = _
      rw [if_pos (synced.uploaded doc.url prev found).2, isPath]
    · exact .inr ⟨_, gone, stored⟩

theorem mem_attached_after (gentle : Gentle world run) (synced : Synced world) :
    path ∈ (theWorld digest source run collection world).attached ↔
      path ∈ world.attached ∧ path ∉ (theProgress digest source run collection world).removes ∨
        ∃ doc ∈ (thePlan digest source collection world).uploadQueue,
          run.listedPath doc = some path := by
  rw [attached_eq gentle.whole, mem_embedPass gentle.embeds, adds_eq gentle.whole, List.mem_filterMap]
  intro added inAdds inRemoves
  rw [adds_eq gentle.whole] at inAdds
  obtain ⟨doc, _, listed⟩ := List.mem_filterMap.mp inAdds
  obtain ⟨url, stored, _⟩ := (mem_detached_iff gentle synced).mp inRemoves
  exact gentle.fresh doc added listed ((synced.tracked.attached_iff added).mpr ⟨url, stored⟩)

/-- The stored paths of the new state are what is attached. -/
theorem owned_after (gentle : Gentle world run) (collected : run.collection = some collection)
    (synced : Synced world) : path ∈ (theWorld digest source run collection world).attached ↔
      ∃ url, storedPath (theWorld digest source run collection world).documents url = some path := by
  rw [mem_attached_after gentle synced, mem_detached_iff gentle synced]
  constructor
  · rintro (⟨attached, notDetached⟩ | ⟨doc, queued, listed⟩)
    · obtain ⟨url, stored⟩ := (synced.tracked.attached_iff path).mp attached
      push Not at notDetached
      obtain ⟨refused, stays⟩ := notDetached url stored
      obtain ⟨time, same⟩ := @lookup_refused digest source run collection world url gentle.whole stays
        refused
      obtain ⟨entry, found, isPath⟩ := storedPath_eq_some.mp stored
      refine ⟨url, storedPath_eq_some.mpr ⟨{ entry with lastFetched := time entry }, ?_, isPath⟩⟩
      rw [same, found, Option.map_some]
    · have accepted : run.upload doc ≠ .raised := fun raised => by
        rw [(raised_iff gentle).mp raised] at listed
        cases listed
      exact ⟨doc.url, storedPath_eq_some.mpr ⟨_, storedPath_uploaded (gentle.unique _ collected)
        (gentle.known _ collected) gentle.whole queued accepted, listed⟩⟩
  · rintro ⟨url, stored⟩
    obtain ⟨doc, queued, _, listed⟩ | ⟨stays, refused, old⟩ := origin_path gentle collected stored
    · exact .inr ⟨doc, queued, listed⟩
    · refine .inl ⟨(synced.tracked.attached_iff path).mpr ⟨url, old⟩, ?_⟩
      rintro ⟨other, isPath, ⟨doc, queued, isUrl, accepted⟩ | gone⟩
      · have same := synced.tracked.distinct _ _ path isPath old
        exact accepted (refused doc queued (isUrl.trans same))
      · exact stays (synced.tracked.distinct _ _ path isPath old ▸ gone)

theorem digest_ne_migrated (digest : Digest) (doc : Document) : digest.hashOf doc ≠ migratedHash := by
  intro same
  have heads : (some 0x73 : Option CodePoint) = some 0x6D := congrArg List.head? same
  revert heads
  decide

theorem Synced.applied (gentle : Gentle world run) (collected : run.collection = some collection)
    (synced : Synced world) : Synced (theWorld digest source run collection world) := by
  have new {doc : Document} {path : Path} (listed : run.listedPath doc = some path) {url : Url} :
      storedPath world.documents url ≠ some path := fun stored =>
    gentle.fresh doc path listed ((synced.tracked.attached_iff path).mpr ⟨url, stored⟩)
  refine ⟨⟨fun path => owned_after gentle collected synced, ?_, ?_⟩, fun url entry found => ?_⟩
  · intro first second path isFirst isSecond
    obtain ⟨doc, _, rfl, listed⟩ | ⟨_, _, oldFirst⟩ := origin_path gentle collected isFirst <;>
      obtain ⟨other, _, rfl, otherListed⟩ | ⟨_, _, oldSecond⟩ := origin_path gentle collected isSecond
    · rw [gentle.apart doc other path listed otherListed]
    · exact absurd oldSecond (new listed)
    · exact absurd oldFirst (new otherListed)
    · exact synced.tracked.distinct _ _ path oldFirst oldSecond
  · rw [attached_eq gentle.whole]
    refine nodup_embedPass gentle.embeds ?_
    have queue : (thePlan digest source collection world).uploadQueue.Nodup :=
      List.Nodup.of_map Document.url (unique_uploadQueue (gentle.unique _ collected))
    rw [adds_eq gentle.whole, List.nodup_append]
    refine ⟨synced.tracked.rows, List.pairwise_filterMap.mpr (queue.imp ?_), ?_⟩
    · rintro doc other different path listed _ otherListed rfl
      exact different (gentle.apart doc other path listed otherListed)
    · rintro path attached _ added rfl
      obtain ⟨doc, _, listed⟩ := List.mem_filterMap.mp added
      exact gentle.fresh doc path listed attached
  · cases origin gentle collected found with
    | uploaded doc queued same accepted isEntry =>
      rw [isEntry]
      exact ⟨gentle.lists doc accepted, fun migrated => digest_ne_migrated digest doc (Option.some.inj migrated)⟩
    | kept stays refused prev isPrev hash samePath =>
      rw [hash, samePath]
      exact synced.uploaded url prev isPrev

/-- A refresh leaves the world as it was, or applies its plan. -/
theorem refreshOne_world (digest : Digest) (source : Source) (run : Run) (world : World) :
    (refreshOne digest source run world).2 = world ∨
      ∃ collection, run.collection = some collection ∧
        (refreshOne digest source run world).2 = theWorld digest source run collection world := by
  cases collected : run.collection with
  | none =>
    refine .inl ?_
    unfold refreshOne
    rw [collected]
  | some collection =>
    obtain ⟨status, same, _⟩ | ⟨_, same⟩ := refreshOne_cases digest source world collected
    · exact .inl (congrArg Prod.snd same)
    · exact .inr ⟨collection, rfl, congrArg Prod.snd same⟩

theorem Synced.refreshed (gentle : Gentle world run) (synced : Synced world) :
    Synced (refreshOne digest source run world).2 := by
  obtain same | ⟨collection, collected, same⟩ := refreshOne_world digest source run world
  · rw [same]
    exact synced
  · rw [same]
    exact synced.applied gentle collected

def page (content : String) : Document := ⟨text "https://x/a", text content⟩

/-- A refresh of a source of two pages, of which the other one cannot be uploaded. -/
def pageRun (content path : String) : Run where
  collection := some ⟨[page content, ⟨text "https://x/b", text "refused"⟩], []⟩
  approvedRemoves := none
  mode := .apply
  now := text "2026-02-01T00:00:00Z"
  clock := fun _ => text "2026-02-01T00:00:01Z"
  upload := fun doc => if doc = page content then .listed (some (text path)) else .raised
  interruptedAfter := none
  embed := fun _ => .done

theorem listedPath_pageRun {content path : String} {found : Path}
    (listed : (pageRun content path).listedPath doc = some found) :
    doc = page content ∧ found = text path := by
  unfold Run.listedPath pageRun at listed
  dsimp only at listed
  split at listed
  next => cases listed
  next docpath isUpload =>
    split at isUpload
    next isPage =>
      cases isUpload
      exact ⟨isPage, (Option.some.inj listed).symm⟩
    next => cases isUpload

theorem gentle_pageRun {content path : String} (fresh : text path ∉ world.attached) :
    Gentle world (pageRun content path) where
  unique := by
    rintro collection ⟨rfl⟩
    change ([text "https://x/a", text "https://x/b"] : List Url).Nodup
    decide
  known := by
    rintro collection ⟨rfl⟩ urls missing
    cases missing
  whole := rfl
  embeds := fun _ => rfl
  lists := by
    intro doc accepted
    unfold Run.listedPath
    unfold pageRun at accepted ⊢
    dsimp only at accepted ⊢
    split at accepted
    next isPage => simp only [if_pos isPage, Option.isSome_some]
    next => exact absurd rfl accepted
  fresh := fun doc found listed => (listedPath_pageRun listed).2 ▸ fresh
  apart := fun doc other found listed otherListed =>
    (listedPath_pageRun listed).1.trans (listedPath_pageRun otherListed).1.symm

end Rag

end LocalGpuCluster
