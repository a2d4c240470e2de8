/-
This file models `refresh_one` of `refresh.py`, from the collected documents to the embedding pass.
What the handler, the clock and AnythingLLM answer is given by a run. An upload may be refused, or
may list no document; a call of the embedding pass may fail after the server did a part of it; and
the run may be interrupted between two uploads. The progress output and the manifest are left out.
-/

import LocalGpuCluster.RagPlan

namespace LocalGpuCluster

namespace Rag

/-- A source of `sources.yaml`, with the defaults filled in. -/
structure Source where
  removalPolicy : Text
  maxDeletePct : Float.Model
  embedBatchSize : ℤ

/-- What `handler.collect` yields, and the URLs it enumerated. -/
structure Collection where
  documents : List Document
  discoveredUrls : List Url

/-- What `upload_raw_text` does: the path is that of the first document of the response. -/
inductive Upload where
  | raised
  | listed (docpath : Option Path)
  deriving DecidableEq, Repr

/-- What a call of `update_embeddings` does. The server may have reached some of the documents of a
call that fails. -/
inductive EmbedCall where
  | done
  | failed (interrupted : Bool) (reached : Path → Bool)

inductive Mode where
  | apply
  | planOnly
  | dryRun
  deriving DecidableEq, Repr

/-- What a refresh meets. `collect` raises where there is no collection. -/
structure Run where
  collection : Option Collection
  approvedRemoves : Option (List Url)
  mode : Mode
  now : Text
  clock : Document → Text
  upload : Document → Upload
  interruptedAfter : Option ℕ
  embed : ℕ → EmbedCall

/-- The state file of a source, and the documents of the source that are attached to its
workspace. -/
structure World where
  documents : Documents
  attached : List Path

inductive Status where
  | collectError
  | haltedDrift
  | haltedSafety
  | planOnly
  | dryRun
  | interrupted
  | embedInterrupted
  | embedError
  | applied
  deriving DecidableEq, Repr

/-! ### Before anything is applied -/

/-- `removal_policy != "additive_only"`. -/
def Source.removeMissing (source : Source) : Bool := source.removalPolicy ≠ text "additive_only"

/-- `context.discovered_urls or None`. -/
def Collection.knownUrls (collection : Collection) : Option (List Url) :=
  if collection.discoveredUrls.isEmpty then none else some collection.discoveredUrls

/-- The plan of a refresh. -/
def planOf (digest : Digest) (source : Source) (collection : Collection) (persisted : Documents) :
    Plan :=
  compute digest collection.documents persisted source.removeMissing collection.knownUrls

/-- What stops a refresh before it applies its plan. -/
def gate (source : Source) (run : Run) (plan : Plan) : Option Status :=
  match run.approvedRemoves with
  | some approved => if plan.removes.all (· ∈ approved) then none else some .haltedDrift
  | none => if plan.safe source.maxDeletePct then none else some .haltedSafety

/-! ### Uploads -/

/-- The time stamp of a URL that was fetched moves. -/
def stamp (now : Text) (state : Documents) (doc : Document) : Documents :=
  match state.lookup doc.url with
  | some entry => state.insert doc.url { entry with lastFetched := now }
  | none => state

def stampAll (now : Text) (collected : List Document) (persisted : Documents) : Documents :=
  collected.foldl (stamp now) persisted

/-- `new_state`, `documents.json`, `adds_docpaths` and `removes_docpaths`. -/
structure Progress where
  state : Documents
  saved : Documents
  adds : List Path
  removes : List Path

/-- The path of the copy that an upload replaces. An adopted entry gives none. -/
def replacedPath (persisted : Documents) (url : Url) : Option Path :=
  (persisted.lookup url).bind fun prev =>
    if prev.hash ≠ some migratedHash then prev.allmDocPath else none

/-- The loop body over the upload queue. -/
def uploadOne (digest : Digest) (run : Run) (persisted : Documents) (progress : Progress)
    (doc : Document) : Progress :=
  match run.upload doc with
  | .raised => progress
  | .listed docpath =>
      let state := progress.state.insert doc.url ⟨some (digest.hashOf doc), run.clock doc, docpath⟩
      { state
        saved := state
        adds := progress.adds ++ docpath.toList
        removes := progress.removes ++
          if docpath.isSome then (replacedPath persisted doc.url).toList else [] }

def Plan.uploadQueue (plan : Plan) : List Document := plan.adds ++ plan.updates

/-- The uploads that are made before a run is interrupted. -/
def Run.reachedUploads (run : Run) (plan : Plan) : List Document :=
  match run.interruptedAfter with
  | none => plan.uploadQueue
  | some count => plan.uploadQueue.take count

def uploads (digest : Digest) (run : Run) (collection : Collection) (plan : Plan)
    (persisted : Documents) : Progress :=
  (run.reachedUploads plan).foldl (uploadOne digest run persisted)
    ⟨stampAll run.now collection.documents persisted, persisted, [], []⟩

/-! ### Removals -/

/-- `persisted.get(url, {}).get("allm_doc_path")`. -/
def storedPath (persisted : Documents) (url : Url) : Option Path :=
  (persisted.lookup url).bind Entry.allmDocPath

/-- The loop body over the URLs that are no longer in the source. -/
def removeOne (persisted : Documents) (progress : Progress) (url : Url) : Progress :=
  { progress with
    state := progress.state.erase url
    removes := progress.removes ++ (storedPath persisted url).toList }

/-- The state file is written after the last removal. -/
def removals (plan : Plan) (persisted : Documents) (progress : Progress) : Progress :=
  let removed := plan.removes.foldl (removeOne persisted) progress
  { removed with saved := removed.state }

/-! ### The embedding pass -/

/-- `update-embeddings`: documents are detached and attached. -/
def updateEmbeddings (attached adds removes : List Path) : List Path :=
  attached.filter (· ∉ removes) ++ adds

/-- `[items[i:i + size] for i in range(0, len(items), size)]`. -/
def chunks {Item : Type} (size : ℕ) (items : List Item) : List (List Item) :=
  (List.range ((items.length + size - 1) / size)).map fun index => (items.drop (index * size)).take size

/-- `plan_embed_batches`. -/
def planEmbedBatches (adds removes : List Path) (batchSize : ℤ) : List (List Path × List Path) :=
  let size := (max 1 batchSize).toNat
  let addChunks := chunks size adds
  let removeChunks := chunks size removes
  (List.range (max (max addChunks.length removeChunks.length) 1)).map fun index =>
    ((addChunks[index]?).getD [], (removeChunks[index]?).getD [])

/-- The loop over the batches, from an index on. A call that fails ends it. -/
def embedFrom (embed : ℕ → EmbedCall) :
    ℕ → List (List Path × List Path) → List Path → Status × List Path
  | _, [], attached => (.applied, attached)
  | index, (adds, removes) :: rest, attached =>
      match embed index with
      | .done => embedFrom embed (index + 1) rest (updateEmbeddings attached adds removes)
      | .failed interrupted reached =>
          (if interrupted then .embedInterrupted else .embedError,
            updateEmbeddings attached (adds.filter reached) (removes.filter reached))

def embedPass (source : Source) (run : Run) (progress : Progress) (attached : List Path) :
    Status × List Path :=
  if progress.adds.isEmpty && progress.removes.isEmpty then (.applied, attached)
  else
    embedFrom run.embed 0 (planEmbedBatches progress.adds progress.removes source.embedBatchSize)
      attached

/-! ### A refresh -/

/-- The apply phase. -/
def applyPlan (digest : Digest) (source : Source) (run : Run) (collection : Collection) (plan : Plan)
    (world : World) : Status × World :=
  let uploaded := uploads digest run collection plan world.documents
  if run.interruptedAfter.isSome then (.interrupted, { world with documents := uploaded.saved })
  else
    let progress := removals plan world.documents uploaded
    let (status, attached) := embedPass source run progress world.attached
    (status, { documents := progress.saved, attached })

/-- `refresh_one`. -/
def refreshOne (digest : Digest) (source : Source) (run : Run) (world : World) : Status × World :=
  match run.collection with
  | none => (.collectError, world)
  | some collection =>
      let plan := planOf digest source collection world.documents
      match gate source run plan with
      | some status => (status, world)
      | none =>
          match run.mode with
          | .planOnly => (.planOnly, world)
          | .dryRun => (.dryRun, world)
          | .apply => applyPlan digest source run collection plan world

end Rag

end LocalGpuCluster
