/-
This file is about a workspace that several sources share, and how it is repaired. A refresh saves its
state before it attaches what it uploaded, so one that breaks off leaves paths that are stored and not
attached, and old copies that are attached and stored no more; no later refresh finds either. Then
`reconcile-workspace.py` attaches the former, and `cleanup_interrupted_refresh.py` detaches the latter. After
any refreshes, and any repairs that failed halfway, one whole run of the first tool and one of the second for
each source leave attached what the states store, each path once, and all else as it was.
-/

import LocalGpuCluster.DedupeWorkspace
import LocalGpuCluster.RagCleanup
import LocalGpuCluster.RagHealing
import LocalGpuCluster.RagSync

namespace LocalGpuCluster

namespace Rag

namespace Repair

open Cleanup (SourceConfig Listed Loaded)

/-! ### The workspace -/

/-- The sources of `sources.yaml`, how they are refreshed, and the workspace that is looked at. -/
structure Site where
  sources : List SourceConfig
  slug : Text
  policy : Text → Source
  digest : Digest
  loads : Text → Loaded
  ids : (sources.map SourceConfig.id).Nodup

/-- The sources that target the workspace. -/
def Site.members (site : Site) : List SourceConfig := site.sources.filter (·.workspace = site.slug)

def Site.member? (site : Site) (id : Text) : Option SourceConfig :=
  (site.sources.find? (·.id = id)).filter (·.workspace = site.slug)

structure Workspace where
  states : Text → Documents
  attached : List Path

/-! ### The tools -/

/-- The keys of `tracked_for`. -/
def trackedFor (site : Site) (states : Text → Documents) : List Path :=
  (site.members.flatMap fun source =>
    (states source.id).entries.filterMap fun entry => entry.2.allmDocPath).filter (· ≠ [])

def missing (site : Site) (workspace : Workspace) : List Path :=
  sortedSet ((trackedFor site workspace.states).filter (· ∉ workspace.attached))

/-- What a call that attaches documents does. The server may attach a part of them, whether or not the call
raises: a document whose text is attached already is accepted and not attached. -/
structure AttachCall where
  raises : Bool
  attaches : Path → Bool

/-- The loop over the batches, from an index on, and whether it ends. -/
def attachFrom (call : ℕ → AttachCall) : ℕ → List (List Path) → List Path → Bool × List Path
  | _, [], attached => (true, attached)
  | index, chunk :: rest, attached =>
      let after := updateEmbeddings attached (chunk.filter (call index).attaches) []
      if (call index).raises then (false, after) else attachFrom call (index + 1) rest after

/-- A run of `reconcile-workspace.py`. -/
structure Reconcile where
  fix : Bool
  batchSize : ℤ
  call : ℕ → AttachCall

/-- `main`, with the exit code where there is one. -/
def reconcile (site : Site) (args : Reconcile) (workspace : Workspace) : Option ℕ × List Path :=
  if missing site workspace = [] then (some 0, workspace.attached)
  else if !args.fix then (some 1, workspace.attached)
  else
    match Dedupe.batched args.batchSize (missing site workspace) with
    | none => (none, workspace.attached)
    | some batches =>
        let (ends, attached) := attachFrom args.call 0 batches workspace.attached
        (if ends then some 0 else none, attached)

/-- A run of `cleanup_interrupted_refresh.py`. The call that detaches may reach only a part. -/
structure CleanupRun where
  id : Text
  apply : Bool
  listed : List Listed
  reached : Path → Bool

def asPath : Json → Option Path
  | .str path => some path
  | _ => none

/-- What the run detaches. -/
def CleanupRun.detached (site : Site) (args : CleanupRun) (states : Text → Documents) : List Path :=
  ((Cleanup.main site.loads ⟨site.sources, states, fun _ => args.listed⟩ args.id
    args.apply).orphanPaths.filterMap asPath).filter args.reached

inductive Event where
  | refresh (id : Text) (run : Run)
  | reconcile (args : Reconcile)
  | cleanup (args : CleanupRun)

/-- The programs run one after the other. -/
def step (site : Site) (workspace : Workspace) : Event → Option Workspace
  | .refresh id run =>
      (site.member? id).map fun source =>
        let after := (refreshOne site.digest (site.policy source.id) run
          ⟨workspace.states source.id, workspace.attached⟩).2
        ⟨Function.update workspace.states source.id after.documents, after.attached⟩
  | .reconcile args => some { workspace with attached := (reconcile site args workspace).2 }
  | .cleanup args =>
      (site.member? args.id).map fun _ =>
        { workspace with
          attached := updateEmbeddings workspace.attached [] (args.detached site workspace.states) }

def workspace (site : Site) : Machine Workspace Event := ⟨step site⟩

/-! ### What a refresh leaves, whatever fails -/

section Refresh

variable {digest : Digest} {source : Source} {run : Run} {collection : Collection} {world : Rag.World}
  {url : Url} {path : Path} {entry : Entry}

/-- An entry after the uploads has the path that an upload listed, or the path that it had. -/
theorem path_uploads (unique : UniqueUrls collection.documents)
    (found : (uploads digest run collection (thePlan digest source collection world)
      world.documents).state.lookup url = some entry) :
    (∃ doc ∈ (thePlan digest source collection world).uploadQueue, doc.url = url ∧
        run.upload doc ≠ .raised ∧ entry.allmDocPath = run.listedPath doc) ∨
      ∃ prev, world.documents.lookup url = some prev ∧ entry.allmDocPath = prev.allmDocPath := by
  by_cases uploaded : ∃ doc ∈ run.reachedUploads (thePlan digest source collection world),
      doc.url = url ∧ run.upload doc ≠ .raised
  · obtain ⟨doc, reached, rfl, accepted⟩ := uploaded
    have isEntry : some (run.entryOf digest doc) = some entry :=
      (lookup_uploads_of_listed ((unique_uploadQueue unique).sublist (sublist_reachedUploads _)) reached
        accepted).symm.trans found
    cases isEntry
    exact .inl ⟨doc, (sublist_reachedUploads _).subset reached, rfl, accepted, rfl⟩
  · push Not at uploaded
    rw [uploads, lookup_uploads_of_raised uploaded, lookup_stampAll] at found
    obtain ⟨prev, isPrev, rfl⟩ := Option.map_eq_some_iff.mp found
    exact .inr ⟨prev, isPrev, by split <;> rfl⟩

/-- The same for the state file after a refresh. -/
theorem path_refreshOne (collected : run.collection = some collection)
    (unique : UniqueUrls collection.documents)
    (found : (refreshOne digest source run world).2.documents.lookup url = some entry) :
    (∃ doc ∈ (thePlan digest source collection world).uploadQueue, doc.url = url ∧
        run.upload doc ≠ .raised ∧ entry.allmDocPath = run.listedPath doc) ∨
      ∃ prev, world.documents.lookup url = some prev ∧ entry.allmDocPath = prev.allmDocPath := by
  have outcome : Outcome digest source run world collection := refreshOne_outcome collected
  cases outcome with
  | stopped same =>
    rw [same] at found
    exact .inr ⟨entry, found, rfl⟩
  | interrupted _ same =>
    rw [same] at found
    by_cases accepted : ∃ doc ∈ run.reachedUploads (thePlan digest source collection world),
        run.upload doc ≠ .raised
    · refine path_uploads unique ((congrArg (AList.lookup url) ?_).trans found)
      exact (saved_uploads (Or.inr accepted)).symm
    · push Not at accepted
      rw [uploads, saved_uploads_of_raised accepted] at found
      exact .inr ⟨entry, found, rfl⟩
  | applied whole _ same =>
    rw [same, lookup_applyPlan whole] at found
    split at found
    · cases found
    · exact path_uploads unique found

/-- Nothing is attached twice, whatever the calls do. -/
theorem nodup_embedFrom_any {embed : ℕ → EmbedCall} {batches : List (List Path × List Path)} {index : ℕ}
    {attached : List Path} (nodup : (attached ++ batches.flatMap Prod.fst).Nodup) :
    (embedFrom embed index batches attached).2.Nodup := by
  induction batches generalizing index attached with
  | nil => exact List.append_nil attached ▸ nodup
  | cons batch rest inductionHypothesis =>
    rw [List.flatMap_cons, ← List.append_assoc] at nodup
    unfold embedFrom
    cases embed index with
    | done =>
      refine inductionHypothesis (nodup.sublist (List.Sublist.append_right ?_ _))
      exact List.Sublist.append_right List.filter_sublist _
    | failed interrupted reached =>
      refine (nodup.sublist (List.sublist_append_left _ _)).sublist ?_
      exact List.filter_sublist.append List.filter_sublist

/-- A path that no batch detaches stays. -/
theorem mem_embedFrom_of_kept {embed : ℕ → EmbedCall} {batches : List (List Path × List Path)} {index : ℕ}
    {attached : List Path} (member : path ∈ attached) (kept : ∀ batch ∈ batches, path ∉ batch.2) :
    path ∈ (embedFrom embed index batches attached).2 := by
  induction batches generalizing index attached with
  | nil => exact member
  | cons batch rest inductionHypothesis =>
    have keptHere := kept batch List.mem_cons_self
    unfold embedFrom
    cases embed index with
    | done =>
      refine inductionHypothesis ?_ fun other inRest => kept other (List.mem_cons_of_mem _ inRest)
      exact List.mem_append_left _ (List.mem_filter.mpr ⟨member, decide_eq_true keptHere⟩)
    | failed interrupted reached =>
      refine List.mem_append_left _ (List.mem_filter.mpr ⟨member, decide_eq_true ?_⟩)
      exact fun inReached => keptHere (List.mem_of_mem_filter inReached)

theorem nodup_embedPass_any {progress : Progress} {attached : List Path}
    (nodup : (attached ++ progress.adds).Nodup) :
    (embedPass source run progress attached).2.Nodup := by
  unfold embedPass
  split
  · exact nodup.sublist (List.sublist_append_left _ _)
  · exact nodup_embedFrom_any (by rwa [adds_planEmbedBatches])

theorem mem_embedPass_of_kept {progress : Progress} {attached : List Path} (member : path ∈ attached)
    (kept : path ∉ progress.removes) : path ∈ (embedPass source run progress attached).2 := by
  unfold embedPass
  split
  · exact member
  · exact mem_embedFrom_of_kept member fun batch isBatch inBatch =>
      kept (exists_batch_removes.mp ⟨batch, isBatch, inBatch⟩)

/-- The embedding pass detaches stored paths. -/
theorem stored_of_detached (whole : run.interruptedAfter = none)
    (detached : path ∈ (theProgress digest source run collection world).removes) :
    ∃ url, storedPath world.documents url = some path := by
  rw [removes_eq whole, List.mem_append, List.mem_filterMap, List.mem_filterMap] at detached
  obtain ⟨doc, _, removal⟩ | ⟨url, _, stored⟩ := detached
  · exact ⟨doc.url, (queuedRemoval_eq_some removal).1⟩
  · exact ⟨url, stored⟩

/-- What holds after a refresh, whatever fails in it. -/
structure Refreshed (run : Run) (world after : Rag.World) : Prop where
  path : ∀ url entry, after.documents.lookup url = some entry →
    (∃ doc, doc.url = url ∧ run.upload doc ≠ .raised ∧ entry.allmDocPath = run.listedPath doc) ∨
      ∃ prev, world.documents.lookup url = some prev ∧ entry.allmDocPath = prev.allmDocPath
  rows : after.attached.Nodup
  new : ∀ path ∈ after.attached, path ∈ world.attached ∨ ∃ doc, run.listedPath doc = some path
  kept : ∀ path ∈ world.attached, (∀ url, storedPath world.documents url ≠ some path) →
    path ∈ after.attached

theorem Refreshed.refl (rows : world.attached.Nodup) : Refreshed run world world where
  path := fun _ entry found => .inr ⟨entry, found, rfl⟩
  rows := rows
  new := fun _ member => .inl member
  kept := fun _ member _ => member

theorem refreshed (unique : ∀ collection, run.collection = some collection →
      UniqueUrls collection.documents)
    (fresh : ∀ doc path, run.listedPath doc = some path → path ∉ world.attached)
    (apart : ∀ doc other path, run.listedPath doc = some path → run.listedPath other = some path →
      doc = other)
    (rows : world.attached.Nodup) : Refreshed run world (refreshOne digest source run world).2 := by
  cases collected : run.collection with
  | none =>
    have same : (refreshOne digest source run world).2 = world := by rw [refreshOne, collected]
    rw [same]
    exact .refl rows
  | some collection =>
    obtain ⟨status, same, _⟩ | ⟨_, same⟩ := refreshOne_cases digest source world collected
    · rw [same]
      exact .refl rows
    · have uniqueUrls := unique collection collected
      have path : ∀ url entry, (refreshOne digest source run world).2.documents.lookup url = some entry →
          (∃ doc, doc.url = url ∧ run.upload doc ≠ .raised ∧ entry.allmDocPath = run.listedPath doc) ∨
            ∃ prev, world.documents.lookup url = some prev ∧ entry.allmDocPath = prev.allmDocPath :=
        fun url entry found => (path_refreshOne collected uniqueUrls found).imp_left
          (Exists.imp fun _ => And.right)
      cases whole : run.interruptedAfter with
      | some count =>
        have attached : (refreshOne digest source run world).2.attached = world.attached := by
          rw [same, applyPlan, whole]
          rfl
        refine ⟨path, ?_, ?_, ?_⟩ <;> rw [attached]
        · exact rows
        · exact fun _ member => .inl member
        · exact fun _ member _ => member
      | none =>
        have attached : (refreshOne digest source run world).2.attached = (embedPass source run
            (theProgress digest source run collection world) world.attached).2 :=
          (congrArg (fun result : Status × Rag.World => result.2.attached) same).trans (attached_eq whole)
        have adds := @adds_eq digest source run collection world whole
        refine ⟨path, ?_, ?_, ?_⟩ <;> rw [attached]
        · refine nodup_embedPass_any (List.nodup_append.mpr ⟨rows, ?_, ?_⟩) <;> rw [adds]
          · have queue : (thePlan digest source collection world).uploadQueue.Nodup :=
              List.Nodup.of_map Document.url (unique_uploadQueue uniqueUrls)
            refine List.pairwise_filterMap.mpr (queue.imp ?_)
            rintro doc other different path listed _ otherListed rfl
            exact different (apart doc other path listed otherListed)
          · rintro path attached _ added rfl
            obtain ⟨doc, _, listed⟩ := List.mem_filterMap.mp added
            exact fresh doc path listed attached
        · intro path member
          by_contra neither
          push Not at neither
          refine not_mem_embedPass neither.1 (fun added => ?_) member
          rw [adds] at added
          obtain ⟨doc, _, listed⟩ := List.mem_filterMap.mp added
          exact neither.2 doc listed
        · intro path member notStored
          refine mem_embedPass_of_kept member fun detached => ?_
          obtain ⟨url, stored⟩ := stored_of_detached whole detached
          exact notStored url stored

end Refresh

/-! ### What holds in every state -/

section Sound

variable {site : Site} {label : Path → Text} {others : List Path} {state next : Workspace}
  {source : SourceConfig} {id : Text} {path : Path}

/-- The state file of the source has the path under the URL. -/
def Stores (state : Workspace) (source : SourceConfig) (url : Url) (path : Path) : Prop :=
  storedPath (state.states source.id) url = some path

/-- Each upload that is accepted lists a new path, whose document gets the prefix of the source. -/
structure Fresh (site : Site) (label : Path → Text) (state : Workspace) (source : SourceConfig)
    (run : Run) : Prop where
  unique : ∀ collection, run.collection = some collection → UniqueUrls collection.documents
  lists : ∀ doc, run.upload doc ≠ .raised → (run.listedPath doc).isSome = true
  unattached : ∀ doc path, run.listedPath doc = some path → path ∉ state.attached
  untracked : ∀ doc path, run.listedPath doc = some path → ∀ other ∈ site.members,
    ¬Cleanup.Tracks (state.states other.id) path
  labels : ∀ doc path, run.listedPath doc = some path → path ≠ [] ∧ label path = source.docPrefix
  apart : ∀ doc other path, run.listedPath doc = some path → run.listedPath other = some path →
    doc = other

/-- A listed document of a path, with the source that it was uploaded for. -/
def Row (site : Site) (label : Path → Text) (path : Path) (doc : Listed) : Prop :=
  Cleanup.docpath doc = .str path ∧ Cleanup.docSource site.loads doc = .ok (label path)

/-- The listing has a document for each path that is attached, and no other. -/
structure Lists (site : Site) (label : Path → Text) (attached : List Path) (listed : List Listed) :
    Prop where
  all : ∀ path ∈ attached, ∃ doc ∈ listed, Row site label path doc
  only : ∀ doc ∈ listed, ∃ path ∈ attached, Row site label path doc

def Sane (site : Site) (label : Path → Text) (state : Workspace) : Event → Prop
  | .refresh id run => ∀ source, site.member? id = some source → Fresh site label state source run
  | .reconcile _ => True
  | .cleanup args => Lists site label state.attached args.listed

/-- No prefix of a source begins that of another one. -/
def Site.Unrelated (site : Site) : Prop :=
  ∀ source ∈ site.members, ∀ other ∈ site.members,
    Cleanup.seemsOf source.docPrefix other.docPrefix = true → source = other

/-- Documents that seem of no source of the workspace. -/
def Foreign (site : Site) (label : Path → Text) (others : List Path) : Prop :=
  ∀ path ∈ others, ∀ source ∈ site.members, Cleanup.seemsOf source.docPrefix (label path) = false

structure Sound (site : Site) (label : Path → Text) (others : List Path) (state : Workspace) :
    Prop where
  rows : state.attached.Nodup
  distinct : ∀ source ∈ site.members, ∀ other ∈ site.members, ∀ url otherUrl path,
    Stores state source url path → Stores state other otherUrl path → source = other ∧ url = otherUrl
  labels : ∀ source ∈ site.members, ∀ url path, Stores state source url path →
    path ≠ [] ∧ label path = source.docPrefix
  everyUrl : ∀ source ∈ site.members, ∀ url entry,
    (state.states source.id).lookup url = some entry → entry.allmDocPath.isSome = true
  accounted : ∀ path ∈ state.attached,
    path ∈ others ∨ path ≠ [] ∧ ∃ source ∈ site.members, label path = source.docPrefix
  kept : ∀ path ∈ others, path ∈ state.attached

/-- Nothing was ever refreshed, and the workspace has other documents. -/
def Workspace.start (others : List Path) : Workspace := ⟨fun _ => ∅, others⟩

theorem sound_start (nodup : others.Nodup) : Sound site label others (.start others) where
  rows := nodup
  distinct := by
    intro _ _ _ _ _ _ _ stored
    cases stored
  labels := by
    intro _ _ _ _ stored
    cases stored
  everyUrl := by
    intro _ _ _ _ found
    cases found
  accounted := fun _ member => .inl member
  kept := fun _ member => member

theorem mem_members_iff : source ∈ site.members ↔ source ∈ site.sources ∧ source.workspace = site.slug := by
  unfold Site.members
  rw [List.mem_filter, decide_eq_true_eq]

/-- An id names one source. -/
theorem Site.eq_of_id {other : SourceConfig} (isSource : source ∈ site.members)
    (isOther : other ∈ site.members) (same : source.id = other.id) : source = other :=
  List.inj_on_of_nodup_map site.ids (mem_members_iff.mp isSource).1 (mem_members_iff.mp isOther).1 same

theorem member?_eq_some (found : site.member? id = some source) :
    source ∈ site.members ∧ source.id = id ∧ site.sources.find? (·.id = id) = some source := by
  obtain ⟨isFound, targets⟩ := Option.filter_eq_some_iff.mp found
  have isId := List.find?_some isFound
  rw [decide_eq_true_eq] at isId targets
  exact ⟨mem_members_iff.mpr ⟨List.mem_of_find?_eq_some isFound, targets⟩, isId, isFound⟩

theorem seemsOf_self (docPrefix : Text) : Cleanup.seemsOf docPrefix docPrefix = true :=
  Cleanup.seemsOf_iff.mpr (.inl rfl)

theorem tracks_iff {documents : Documents} :
    Cleanup.Tracks documents path ↔ path ≠ [] ∧ ∃ url, storedPath documents url = some path := by
  unfold Cleanup.Tracks
  refine and_congr_right fun _ => ?_
  constructor
  · rintro ⟨⟨url, entry⟩, member, isPath⟩
    exact ⟨url, storedPath_eq_some.mpr ⟨entry, AList.mem_lookup_iff.mpr member, isPath⟩⟩
  · rintro ⟨url, stored⟩
    obtain ⟨entry, found, isPath⟩ := storedPath_eq_some.mp stored
    exact ⟨⟨url, entry⟩, AList.mem_lookup_iff.mp found, isPath⟩

theorem Fresh.notStored {run : Run} (fresh : Fresh site label state source run) {doc : Document}
    (listed : run.listedPath doc = some path) {other : SourceConfig} (isOther : other ∈ site.members)
    {url : Url} : ¬Stores state other url path := fun stored =>
  fresh.untracked doc path listed other isOther
    (tracks_iff.mpr ⟨(fresh.labels doc path listed).1, url, stored⟩)

/-! ### A refresh -/

/-- A path of the state after a refresh was listed by an upload, or was there. -/
theorem Refreshed.stored {run : Run} {world after : Rag.World} {url : Url}
    (refreshed : Refreshed run world after) (stored : storedPath after.documents url = some path) :
    (∃ doc, doc.url = url ∧ run.listedPath doc = some path) ∨
      storedPath world.documents url = some path := by
  obtain ⟨entry, found, isPath⟩ := storedPath_eq_some.mp stored
  obtain ⟨doc, same, _, listed⟩ | ⟨prev, isPrev, samePath⟩ := refreshed.path url entry found
  · exact .inl ⟨doc, same, listed.symm.trans isPath⟩
  · exact .inr (storedPath_eq_some.mpr ⟨prev, isPrev, samePath.symm.trans isPath⟩)

theorem Sound.refresh (sound : Sound site label others state) (foreign : Foreign site label others)
    {run : Run} (isMember : source ∈ site.members) (fresh : Fresh site label state source run)
    {after : Rag.World} (refreshed : Refreshed run ⟨state.states source.id, state.attached⟩ after) :
    Sound site label others
      ⟨Function.update state.states source.id after.documents, after.attached⟩ := by
  have here : Function.update state.states source.id after.documents source.id = after.documents :=
    Function.update_self ..
  have elsewhere {other : SourceConfig} (isOther : other ∈ site.members) (different : other ≠ source) :
      Function.update state.states source.id after.documents other.id = state.states other.id :=
    Function.update_of_ne (fun same => different (site.eq_of_id isOther isMember same)) ..
  -- A path that is stored is new, or was stored before.
  have origin {other : SourceConfig} (isOther : other ∈ site.members) {url : Url} {path : Path}
      (stored : Stores ⟨Function.update state.states source.id after.documents, after.attached⟩ other url
        path) :
      (other = source ∧ ∃ doc, doc.url = url ∧ run.listedPath doc = some path) ∨
        Stores state other url path := by
    unfold Stores at stored ⊢
    dsimp only at stored
    by_cases same : other = source
    · rw [same, here] at stored
      rw [same]
      exact (refreshed.stored stored).imp_left fun listed => ⟨rfl, listed⟩
    · rw [elsewhere isOther same] at stored
      exact .inr stored
  refine ⟨refreshed.rows, ?_, ?_, ?_, ?_, ?_⟩
  · intro first isFirst second isSecond url otherUrl path stored storedToo
    obtain ⟨rfl, doc, isUrl, listed⟩ | old := origin isFirst stored <;>
      obtain ⟨rfl, other, isOtherUrl, listedToo⟩ | oldToo := origin isSecond storedToo
    · rw [← isUrl, ← isOtherUrl, fresh.apart doc other path listed listedToo]
      exact ⟨rfl, rfl⟩
    · exact absurd oldToo (fresh.notStored listed isSecond)
    · exact absurd old (fresh.notStored listedToo isFirst)
    · exact sound.distinct first isFirst second isSecond url otherUrl path old oldToo
  · intro other isOther url path stored
    obtain ⟨rfl, doc, _, listed⟩ | old := origin isOther stored
    · exact fresh.labels doc path listed
    · exact sound.labels other isOther url path old
  · intro other isOther url entry found
    dsimp only at found
    by_cases same : other = source
    · rw [same, here] at found
      obtain ⟨doc, _, accepted, listed⟩ | ⟨prev, isPrev, samePath⟩ := refreshed.path url entry found
      · rw [listed]
        exact fresh.lists doc accepted
      · rw [samePath]
        exact sound.everyUrl source isMember url prev isPrev
    · rw [elsewhere isOther same] at found
      exact sound.everyUrl other isOther url entry found
  · intro path member
    obtain old | ⟨doc, listed⟩ := refreshed.new path member
    · exact sound.accounted path old
    · obtain ⟨named, isLabel⟩ := fresh.labels doc path listed
      exact .inr ⟨named, source, isMember, isLabel⟩
  · intro path isOther
    refine refreshed.kept path (sound.kept path isOther) fun url stored => ?_
    have seems := foreign path isOther source isMember
    rw [(sound.labels source isMember url path stored).2, seemsOf_self] at seems
    cases seems

/-! ### Repairs -/

/-- What the states store stays as it is, so what is attached decides. -/
theorem Sound.attach (sound : Sound site label others state) {attached : List Path}
    (rows : attached.Nodup) (kept : ∀ path ∈ others, path ∈ attached)
    (accounted : ∀ path ∈ attached, path ∈ state.attached ∨
      ∃ source ∈ site.members, ∃ url, Stores state source url path) :
    Sound site label others { state with attached } where
  rows := rows
  distinct := sound.distinct
  labels := sound.labels
  everyUrl := sound.everyUrl
  accounted := fun path member => by
    obtain old | ⟨source, isMember, url, stored⟩ := accounted path member
    · exact sound.accounted path old
    · obtain ⟨named, isLabel⟩ := sound.labels source isMember url path stored
      exact .inr ⟨named, source, isMember, isLabel⟩
  kept := kept

theorem mem_missing_iff : path ∈ missing site state ↔
    path ≠ [] ∧ path ∉ state.attached ∧ ∃ source ∈ site.members, ∃ url, Stores state source url path := by
  have tracked : path ∈ trackedFor site state.states ↔
      ∃ source ∈ site.members, Cleanup.Tracks (state.states source.id) path := by
    unfold trackedFor Cleanup.Tracks
    rw [List.mem_filter, List.mem_flatMap, decide_eq_true_eq]
    simp only [List.mem_filterMap]
    tauto
  unfold missing sortedSet
  rw [List.mem_insertionSort, List.mem_dedup, List.mem_filter, decide_eq_true_eq, tracked]
  simp only [tracks_iff]
  constructor
  · rintro ⟨⟨source, isMember, named, stored⟩, unattached⟩
    exact ⟨named, unattached, source, isMember, stored⟩
  · rintro ⟨named, unattached, source, isMember, stored⟩
    exact ⟨⟨source, isMember, named, stored⟩, unattached⟩

/-- The loop adds a part of the batches, and all of them where no call fails. -/
theorem attachFrom_eq {call : ℕ → AttachCall} (index : ℕ) (batches : List (List Path))
    (attached : List Path) : ∃ added, added.Sublist batches.flatten ∧
      (attachFrom call index batches attached).2 = attached ++ added ∧
      ((∀ index, (call index).raises = false ∧ ∀ path, (call index).attaches path = true) →
        added = batches.flatten) := by
  induction batches generalizing index attached with
  | nil => exact ⟨[], .slnil, (List.append_nil attached).symm, fun _ => rfl⟩
  | cons chunk rest inductionHypothesis =>
    have after : updateEmbeddings attached (chunk.filter (call index).attaches) [] =
        attached ++ chunk.filter (call index).attaches := by
      simp [updateEmbeddings]
    unfold attachFrom
    dsimp only
    rw [after, List.flatten_cons]
    split
    next raises =>
      refine ⟨_, List.filter_sublist.trans (List.sublist_append_left _ _), rfl, fun whole => ?_⟩
      rw [(whole index).1] at raises
      cases raises
    next =>
      obtain ⟨added, sublist, same, all⟩ :=
        inductionHypothesis (index + 1) (attached ++ chunk.filter (call index).attaches)
      refine ⟨chunk.filter (call index).attaches ++ added, List.filter_sublist.append sublist,
        by rw [same, List.append_assoc], fun whole => ?_⟩
      rw [all whole, List.filter_eq_self.mpr fun path _ => (whole index).2 path]

/-- All calls of a run that attaches documents succeed. -/
structure Reconcile.Complete (args : Reconcile) : Prop where
  fix : args.fix = true
  positive : 0 < args.batchSize
  whole : ∀ index, (args.call index).raises = false ∧ ∀ path, (args.call index).attaches path = true

/-- What `reconcile-workspace.py` attaches. -/
theorem reconcile_eq (site : Site) (args : Reconcile) (state : Workspace) :
    ∃ added, added.Nodup ∧ (∀ path ∈ added, path ∈ missing site state) ∧
      (reconcile site args state).2 = state.attached ++ added ∧
      (args.Complete → ∀ path ∈ missing site state, path ∈ added) := by
  have nodup : (missing site state).Nodup := nodup_sortedSet _
  have nothing (same : (reconcile site args state).2 = state.attached)
      (stops : args.Complete → missing site state = []) :
      ∃ added, added.Nodup ∧ (∀ path ∈ added, path ∈ missing site state) ∧
        (reconcile site args state).2 = state.attached ++ added ∧
        (args.Complete → ∀ path ∈ missing site state, path ∈ added) :=
    ⟨[], List.nodup_nil, fun _ member => absurd member List.not_mem_nil,
      same.trans (List.append_nil _).symm, fun complete path member => stops complete ▸ member⟩
  by_cases none : missing site state = []
  · exact nothing (by rw [reconcile, if_pos none]) fun _ => none
  cases fixes : args.fix with
  | false =>
    refine nothing (by rw [reconcile, if_neg none, fixes]; rfl) fun complete => ?_
    rw [complete.fix] at fixes
    cases fixes
  | true =>
    cases isBatched : Dedupe.batched args.batchSize (missing site state) with
    | none =>
      refine nothing (by rw [reconcile, if_neg none, fixes, isBatched]; rfl) fun complete => ?_
      rw [Dedupe.batched, if_neg complete.positive.ne', if_pos complete.positive] at isBatched
      cases isBatched
    | some batches =>
      obtain ⟨added, sublist, same, all⟩ := attachFrom_eq 0 batches state.attached
      have within := sublist.trans (Dedupe.batched_sublist isBatched)
      refine ⟨added, nodup.sublist within, fun path member => within.subset member, ?_,
        fun complete path member => ?_⟩
      · rw [reconcile, if_neg none, fixes, isBatched]
        exact same
      · rw [all complete.whole, Dedupe.flatten_batched complete.positive isBatched]
        exact member

/-! ### The cleanup of a source -/

theorem isTracked_eq_false_iff {documents : Documents} :
    Cleanup.isTracked documents (.str path) = .ok false ↔ ¬Cleanup.Tracks documents path := by
  rw [Cleanup.isTracked, Except.ok.injEq, decide_eq_false_iff_not]

theorem asPath_eq_some {json : Json} : asPath json = some path ↔ json = .str path := by
  cases json with
  | str text =>
    rw [asPath, Option.some_inj, Json.str.injEq]
  | _ => exact iff_of_false nofun nofun

theorem deleted_of_not_apply (loads : Text → Loaded) (world : Cleanup.World) (id : Text) :
    (Cleanup.main loads world id false).deleted = [] := by
  unfold Cleanup.main
  split
  · rfl
  · split
    · rfl
    · split <;> rfl

variable {args : CleanupRun}

/-- A cleanup detaches paths that seem of its source and that its state does not store. -/
theorem mem_detached_iff (found : site.member? args.id = some source)
    (lists : Lists site label state.attached args.listed) :
    path ∈ args.detached site state.states ↔ args.apply = true ∧ args.reached path = true ∧
      path ∈ state.attached ∧ path ≠ [] ∧
        Cleanup.seemsOf source.docPrefix (label path) = true ∧ ∀ url, ¬Stores state source url path := by
  obtain ⟨-, -, isFound⟩ := member?_eq_some found
  unfold CleanupRun.detached Cleanup.Outcome.orphanPaths
  rw [List.mem_filter, List.filterMap_map, List.mem_filterMap]
  simp only [Function.comp_apply, asPath_eq_some]
  cases applies : args.apply with
  | false =>
    rw [deleted_of_not_apply]
    exact iff_of_false (fun ⟨⟨_, member, _⟩, _⟩ => List.not_mem_nil member) nofun
  | true =>
    set world : Cleanup.World := ⟨site.sources, state.states, fun _ => args.listed⟩
    have goesOn : ¬Cleanup.Stops site.loads world source := by
      rintro ⟨doc, isListed, stops⟩
      obtain ⟨path, -, isPath, isSource⟩ := lists.only doc isListed
      obtain ⟨failure, refused⟩ | ⟨_, failure, _, _, refused⟩ := stops
      · rw [isSource] at refused
        cases refused
      · rw [isPath] at refused
        cases refused
    have tracks : Cleanup.Tracks (state.states source.id) path ↔
        path ≠ [] ∧ ∃ url, Stores state source url path := tracks_iff
    constructor
    · rintro ⟨⟨doc, deleted, isPath⟩, reached⟩
      obtain ⟨_, ⟨isListed, ⟨ds, isDs, seems⟩, untracked⟩, truthy⟩ :=
        (Cleanup.mem_deleted_iff isFound doc).mp deleted
      obtain ⟨other, isAttached, isOther, isSource⟩ := lists.only doc isListed
      obtain rfl : other = path := Json.str.inj (isOther.symm.trans isPath)
      obtain rfl : ds = label other := Except.ok.inj (isDs.symm.trans isSource)
      have named : other ≠ [] := by
        rintro rfl
        rw [isPath] at truthy
        cases truthy
      rw [isPath, isTracked_eq_false_iff, tracks] at untracked
      exact ⟨rfl, reached, isAttached, named, seems, fun url stored => untracked ⟨named, url, stored⟩⟩
    · rintro ⟨-, reached, isAttached, named, seems, notStored⟩
      obtain ⟨doc, isListed, isPath, isSource⟩ := lists.all path isAttached
      refine ⟨⟨doc, (Cleanup.mem_deleted_iff isFound doc).mpr ⟨goesOn, ⟨isListed, ⟨_, isSource, seems⟩, ?_⟩,
        ?_⟩, isPath⟩, reached⟩
      · rw [isPath, isTracked_eq_false_iff, tracks]
        exact fun ⟨_, url, stored⟩ => notStored url stored
      · rw [isPath]
        exact decide_eq_true named

theorem mem_cleaned_iff {attached detached : List Path} :
    path ∈ updateEmbeddings attached [] detached ↔ path ∈ attached ∧ path ∉ detached := by
  unfold updateEmbeddings
  rw [List.append_nil, List.mem_filter, decide_eq_true_eq]

/-! ### Runs -/

theorem Sound.of_step {event : Event} (foreign : Foreign site label others)
    (sane : Sane site label state event) (stepped : step site state event = some next)
    (sound : Sound site label others state) : Sound site label others next := by
  cases event with
  | refresh id run =>
    obtain ⟨source, found, rfl⟩ := Option.map_eq_some_iff.mp stepped
    have fresh : Fresh site label state source run := sane source found
    exact sound.refresh foreign (member?_eq_some found).1 fresh
      (refreshed fresh.unique fresh.unattached fresh.apart sound.rows)
  | reconcile args =>
    cases stepped
    obtain ⟨added, nodup, isMissing, same, -⟩ := reconcile_eq site args state
    rw [same]
    refine sound.attach ?_ ?_ ?_
    · refine List.nodup_append.mpr ⟨sound.rows, nodup, ?_⟩
      rintro path attached _ isAdded rfl
      exact (mem_missing_iff.mp (isMissing path isAdded)).2.1 attached
    · exact fun path isOther => List.mem_append_left _ (sound.kept path isOther)
    · intro path member
      exact (List.mem_append.mp member).imp_right fun isAdded =>
        (mem_missing_iff.mp (isMissing path isAdded)).2.2
  | cleanup args =>
    obtain ⟨source, found, rfl⟩ := Option.map_eq_some_iff.mp stepped
    have isMember := (member?_eq_some found).1
    refine sound.attach ?_ ?_ ?_
    · unfold updateEmbeddings
      rw [List.append_nil]
      exact sound.rows.sublist List.filter_sublist
    · intro path isOther
      refine mem_cleaned_iff.mpr ⟨sound.kept path isOther, fun detached => ?_⟩
      have seems := ((mem_detached_iff found sane).mp detached).2.2.2.2.1
      rw [foreign path isOther source isMember] at seems
      cases seems
    · exact fun path member => .inl (mem_cleaned_iff.mp member).1

/-- Every stored path is attached. -/
def Covered (site : Site) (state : Workspace) : Prop :=
  ∀ source ∈ site.members, ∀ url path, Stores state source url path → path ∈ state.attached

/-- No old copy of a document of the source is attached. -/
def Clean (label : Path → Text) (state : Workspace) (source : SourceConfig) : Prop :=
  ∀ path ∈ state.attached, label path = source.docPrefix → ∃ url, Stores state source url path

theorem Sound.covered {args : Reconcile} (sound : Sound site label others state)
    (complete : args.Complete) (stepped : step site state (.reconcile args) = some next) :
    Covered site next := by
  cases stepped
  obtain ⟨added, -, -, same, all⟩ := reconcile_eq site args state
  intro source isMember url path stored
  dsimp only
  rw [same, List.mem_append]
  by_cases attached : path ∈ state.attached
  · exact .inl attached
  · exact .inr (all complete path (mem_missing_iff.mpr ⟨(sound.labels source isMember url path stored).1,
      attached, source, isMember, url, stored⟩))

/-- The detaching call of a cleanup reaches everything. -/
def CleanupRun.Complete (args : CleanupRun) : Prop := args.apply = true ∧ ∀ path, args.reached path = true

/-- A cleanup detaches no stored path, and after a whole one no old copy of its source is left. -/
theorem Covered.cleaned (unrelated : site.Unrelated) (foreign : Foreign site label others) (sound : Sound site label others state)
    (sane : Sane site label state (.cleanup args)) (stepped : step site state (.cleanup args) = some next)
    (covered : Covered site state)
    (isMember : source ∈ site.members) :
    Covered site next ∧
      (Clean label state source ∨ args.id = source.id ∧ args.Complete → Clean label next source) := by
  obtain ⟨cleaned, found, rfl⟩ := Option.map_eq_some_iff.mp stepped
  obtain ⟨isCleaned, isId, -⟩ := member?_eq_some found
  refine ⟨fun other isOther url path stored => ?_, fun clean path member ofSource => ?_⟩
  · refine mem_cleaned_iff.mpr ⟨covered other isOther url path stored, fun detached => ?_⟩
    obtain ⟨-, -, -, -, seems, notStored⟩ := (mem_detached_iff found sane).mp detached
    rw [(sound.labels other isOther url path stored).2] at seems
    obtain rfl := unrelated cleaned isCleaned other isOther seems
    exact notStored url stored
  · obtain ⟨attached, left⟩ := mem_cleaned_iff.mp member
    obtain clean | ⟨same, applies, reached⟩ := clean
    · exact clean path attached ofSource
    · obtain rfl := site.eq_of_id isCleaned isMember (isId.trans same)
      by_contra notStored
      push Not at notStored
      have seems : Cleanup.seemsOf cleaned.docPrefix (label path) = true := by
        rw [ofSource]
        exact seemsOf_self _
      have named : path ≠ [] := by
        obtain isOther | ⟨named, -⟩ := sound.accounted path attached
        · rw [foreign path isOther cleaned isCleaned] at seems
          cases seems
        · exact named
      exact left ((mem_detached_iff found sane).mpr
        ⟨applies, reached path, attached, named, seems, notStored⟩)

/-- The workspace has what the states store and its other documents, each once, and every URL of a state
has a path of its own. -/
structure InStep (site : Site) (others : List Path) (state : Workspace) : Prop where
  rows : state.attached.Nodup
  attached_iff : ∀ path, path ∈ state.attached ↔
    path ∈ others ∨ ∃ source ∈ site.members, ∃ url, Stores state source url path
  everyUrl : ∀ source ∈ site.members, ∀ url ∈ state.states source.id, ∃ path, Stores state source url path
  distinct : ∀ source ∈ site.members, ∀ other ∈ site.members, ∀ url otherUrl path,
    Stores state source url path → Stores state other otherUrl path → source = other ∧ url = otherUrl

theorem Sound.inStep (sound : Sound site label others state) (covered : Covered site state)
    (clean : ∀ source ∈ site.members, Clean label state source) : InStep site others state where
  rows := sound.rows
  attached_iff := fun path => by
    constructor
    · intro attached
      refine (sound.accounted path attached).imp_right fun ⟨_, source, isMember, ofSource⟩ => ?_
      exact ⟨source, isMember, clean source isMember path attached ofSource⟩
    · rintro (isOther | ⟨source, isMember, url, stored⟩)
      · exact sound.kept path isOther
      · exact covered source isMember url path stored
  everyUrl := fun source isMember url member => by
    obtain ⟨entry, found⟩ := Option.isSome_iff_exists.mp (AList.lookup_isSome.mpr member)
    obtain ⟨path, isPath⟩ :=
      Option.isSome_iff_exists.mp (sound.everyUrl source isMember url entry found)
    exact ⟨path, storedPath_eq_some.mpr ⟨entry, found, isPath⟩⟩
  distinct := sound.distinct

variable {events : List Event}

theorem sound_run (nodup : others.Nodup) (foreign : Foreign site label others)
    (ran : (workspace site).run (.start others) events = some state)
    (sane : (workspace site).Guarded (Sane site label) (.start others) events) :
    Sound site label others state :=
  (workspace site).run_invariant_of_guarded (Sane site label) (Sound site label others)
    (fun _ _ _ sane stepped sound => sound.of_step foreign sane stepped) sane ran (sound_start nodup)

/-- Cleanups of all sources leave no old copy of any. -/
theorem Covered.run_cleanups (unrelated : site.Unrelated) (foreign : Foreign site label others)
    {cleanups : List CleanupRun} (sound : Sound site label others state) (covered : Covered site state)
    (ran : (workspace site).run state (cleanups.map .cleanup) = some next)
    (sane : (workspace site).Guarded (Sane site label) state (cleanups.map .cleanup)) :
    Sound site label others next ∧ Covered site next ∧ ∀ source ∈ site.members,
      Clean label state source ∨ (∃ args ∈ cleanups, args.id = source.id ∧ args.Complete) →
        Clean label next source := by
  induction cleanups generalizing state with
  | nil =>
    cases ran
    refine ⟨sound, covered, fun _ _ clean => clean.resolve_right ?_⟩
    exact fun ⟨_, member, _⟩ => List.not_mem_nil member
  | cons args rest inductionHypothesis =>
    obtain ⟨middle, stepped, ranRest⟩ := (workspace site).run_cons_eq_some.mp ran
    have cleaned {source : SourceConfig} (isMember : source ∈ site.members) :=
      covered.cleaned unrelated foreign sound sane.1 stepped isMember
    have stillCovered : Covered site middle := fun source isMember =>
      (cleaned isMember).1 source isMember
    obtain ⟨soundAfter, coveredAfter, clean⟩ := inductionHypothesis
      (sound.of_step foreign sane.1 stepped) stillCovered ranRest (sane.2 middle stepped)
    refine ⟨soundAfter, coveredAfter, fun source isMember cleans => clean source isMember ?_⟩
    obtain already | ⟨run, member, isRun⟩ := cleans
    · exact .inl ((cleaned isMember).2 (.inl already))
    · obtain rfl | inRest := List.mem_cons.mp member
      · exact .inl ((cleaned isMember).2 (.inr isRun))
      · exact .inr ⟨run, inRest, isRun⟩

/-- Whatever failed in refreshes and earlier repairs, a whole run of `reconcile-workspace.py` and then, among
any others, one whole run of the cleanup for each source bring the workspace in step with the states. -/
theorem repaired (unrelated : site.Unrelated) (foreign : Foreign site label others)
    (nodup : others.Nodup) {args : Reconcile} (complete : args.Complete) {cleanups : List CleanupRun}
    (each : ∀ source ∈ site.members, ∃ args ∈ cleanups, args.id = source.id ∧ args.Complete)
    (ran : (workspace site).run (.start others)
      (events ++ .reconcile args :: cleanups.map .cleanup) = some state)
    (sane : (workspace site).Guarded (Sane site label) (.start others)
      (events ++ .reconcile args :: cleanups.map .cleanup)) : InStep site others state := by
  rw [(workspace site).run_append, Option.bind_eq_some_iff] at ran
  obtain ⟨broken, ranBefore, ranAfter⟩ := ran
  obtain ⟨saneBefore, saneAfter⟩ := (workspace site).guarded_of_append sane ranBefore
  have soundBroken := sound_run nodup foreign ranBefore saneBefore
  obtain ⟨attached, stepped, ranCleanups⟩ := (workspace site).run_cons_eq_some.mp ranAfter
  obtain ⟨sound, covered, clean⟩ := (soundBroken.covered complete stepped).run_cleanups unrelated foreign
    (soundBroken.of_step foreign saneAfter.1 stepped) ranCleanups (saneAfter.2 attached stepped)
  exact sound.inStep covered fun source isMember => clean source isMember (.inr (each source isMember))

end Sound

/-! ### Two sources that broke off -/

def alpha : SourceConfig := ⟨text "alpha", text "shared", text "[A]"⟩

def beta : SourceConfig := ⟨text "beta", text "shared", text "[B]"⟩

def exampleSite : Site where
  sources := [alpha, beta]
  slug := text "shared"
  policy := fun _ => exampleSource
  digest := Digest.plain
  loads := fun _ => .invalid
  ids := by decide

/-- The prefix that a document was uploaded with. -/
def exampleLabel (path : Path) : Text :=
  if path ∈ [text "a1", text "a2"] then text "[A]"
  else if path = text "b1" then text "[B]"
  else text "[X]"

def listedDoc (path : Path) : Listed :=
  [(text "docpath", .str path), (text "metadata", .obj [(text "docSource", .str (exampleLabel path))])]

def attachAll : Reconcile := ⟨true, 50, fun _ => ⟨false, fun _ => true⟩⟩

def cleanAll (id : Text) (attached : List Path) : CleanupRun :=
  ⟨id, true, attached.map listedDoc, fun _ => true⟩

/-- A page of the first source changes and is uploaded, but attaching it fails; a refresh of the second
source is interrupted after its first upload. -/
def breakOffs : List Event :=
  [.refresh (text "alpha") (pageRun "before" "a1"),
    .refresh (text "alpha") { pageRun "after" "a2" with embed := fun _ => .failed false fun _ => false },
    .refresh (text "beta") { pageRun "before" "b1" with interruptedAfter := some 1 }]

def exampleCleanups : List CleanupRun :=
  [cleanAll (text "alpha") [text "x1", text "a1", text "a2", text "b1"],
    cleanAll (text "beta") [text "x1", text "a2", text "b1"]]

theorem fresh_pageRun {content path : String} {state : Workspace} {source : SourceConfig}
    (interruptedAfter : Option ℕ) (embed : ℕ → EmbedCall) (unattached : text path ∉ state.attached)
    (untracked : ∀ other ∈ exampleSite.members, ¬Cleanup.Tracks (state.states other.id) (text path))
    (named : text path ≠ []) (labels : exampleLabel (text path) = source.docPrefix) :
    Fresh exampleSite exampleLabel state source { pageRun content path with interruptedAfter, embed } := by
  have isPath {doc : Document} {found : Path} (listed :
      Run.listedPath { pageRun content path with interruptedAfter, embed } doc = some found) :
      found = text path := (listedPath_pageRun listed).2
  have gentle : Gentle ⟨∅, state.attached⟩ (pageRun content path) := gentle_pageRun unattached
  exact ⟨gentle.unique, gentle.lists, gentle.fresh, fun doc found listed => isPath listed ▸ untracked,
    fun doc found listed => isPath listed ▸ ⟨named, labels⟩, gentle.apart⟩

theorem row_listedDoc {path : Path} (named : path ≠ []) :
    Row exampleSite exampleLabel path (listedDoc path) := by
  constructor
  · cases path with
    | nil => exact absurd rfl named
    | cons point rest => rfl
  · unfold listedDoc exampleLabel
    split
    · rfl
    · split <;> rfl

theorem lists_map {attached : List Path} (named : ∀ path ∈ attached, path ≠ []) :
    Lists exampleSite exampleLabel attached (attached.map listedDoc) where
  all := fun path member => ⟨_, List.mem_map_of_mem member, row_listedDoc (named path member)⟩
  only := fun doc listed => by
    obtain ⟨path, member, rfl⟩ := List.mem_map.mp listed
    exact ⟨path, member, row_listedDoc (named path member)⟩

theorem sane_example : (workspace exampleSite).Guarded (Sane exampleSite exampleLabel)
    (.start [text "x1"]) (breakOffs ++ .reconcile attachAll :: exampleCleanups.map .cleanup) := by
  have refresh {content path : String} {state : Workspace} {source : SourceConfig} {id : Text}
      {interruptedAfter : Option ℕ} {embed : ℕ → EmbedCall} (isSource : exampleSite.member? id = some source)
      (unattached : text path ∉ state.attached)
      (untracked : ∀ other ∈ exampleSite.members, ¬Cleanup.Tracks (state.states other.id) (text path))
      (named : text path ≠ []) (labels : exampleLabel (text path) = source.docPrefix) :
      Sane exampleSite exampleLabel state
        (.refresh id { pageRun content path with interruptedAfter, embed }) := by
    intro found isFound
    obtain rfl := Option.some.inj (isSource.symm.trans isFound)
    exact fresh_pageRun interruptedAfter embed unattached untracked named labels
  refine (workspace exampleSite).guarded_cons
    (refresh (show _ = some alpha from rfl) (by decide) (by decide) (by decide) rfl) rfl ?_
  refine (workspace exampleSite).guarded_cons
    (refresh (show _ = some alpha from rfl) (by decide) (by decide) (by decide) rfl) rfl ?_
  refine (workspace exampleSite).guarded_cons
    (refresh (show _ = some beta from rfl) (by decide) (by decide) (by decide) rfl) rfl ?_
  refine (workspace exampleSite).guarded_cons trivial rfl ?_
  refine (workspace exampleSite).guarded_cons (lists_map (by decide)) rfl ?_
  exact (workspace exampleSite).guarded_cons (lists_map (by decide)) rfl trivial

theorem example_repaired : ∃ state : Workspace, (workspace exampleSite).run (.start [text "x1"])
      (breakOffs ++ .reconcile attachAll :: exampleCleanups.map .cleanup) = some state ∧
    state.attached = [text "x1", text "a2", text "b1"] ∧ InStep exampleSite [text "x1"] state := by
  have ends : ∃ state : Workspace, (workspace exampleSite).run (.start [text "x1"])
      (breakOffs ++ .reconcile attachAll :: exampleCleanups.map .cleanup) = some state ∧
        state.attached = [text "x1", text "a2", text "b1"] := ⟨_, rfl, rfl⟩
  obtain ⟨state, ran, attached⟩ := ends
  refine ⟨state, ran, attached, repaired ?_ ?_ ?_ ?_ ?_ ran sane_example⟩
  · unfold Site.Unrelated
    decide
  · unfold Foreign
    decide
  · decide
  · exact ⟨rfl, by decide, fun _ => ⟨rfl, fun _ => rfl⟩⟩
  · have both : exampleSite.members = [alpha, beta] := rfl
    intro source member
    rw [both, List.mem_cons, List.mem_singleton] at member
    obtain rfl | rfl := member
    · exact ⟨_, List.mem_cons_self, rfl, rfl, fun _ => rfl⟩
    · exact ⟨_, List.mem_cons_of_mem _ List.mem_cons_self, rfl, rfl, fun _ => rfl⟩

end Repair

end Rag

end LocalGpuCluster
