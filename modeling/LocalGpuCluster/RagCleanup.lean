/-
This file models `cleanup_interrupted_refresh.py`: the listed documents of a workspace that seem to
belong to a source and that its state does not know are detached and deleted. Which documents those
are is proved from the listing and the saved states. What `json.loads` makes of metadata that is a
string is a parameter; the progress output is left out.
-/

import LocalGpuCluster.Json
import LocalGpuCluster.RagPlan

namespace LocalGpuCluster

namespace Rag

namespace Cleanup

/-! ### The script -/

/-- What `json.loads` does with a string. -/
inductive Loaded where
  | value (json : Json)
  /-- `ValueError`. -/
  | invalid
  /-- `RecursionError`. -/
  | tooDeep

/-- What ends the script with a traceback. -/
inductive Failure where
  | attributeError
  | typeError
  | recursionError
  deriving DecidableEq, Repr

/-- An entry of a workspace's `documents`. -/
abbrev Listed := List (Text × Json)

/-- A source of `sources.yaml`, as far as it is read. -/
structure SourceConfig where
  id : Text
  workspace : Text
  docPrefix : Text
  deriving DecidableEq, Repr

/-- What a run meets: the sources, their states by id, and the documents by workspace. -/
structure World where
  sources : List SourceConfig
  states : Text → Documents
  listed : Text → List Listed

variable (loads : Text → Loaded)

/-- `metadata_dict`. -/
def metadataDict (doc : Listed) : Except Failure (List (Text × Json)) :=
  match Json.getIn doc (text "metadata") with
  | .obj fields => .ok fields
  | .str content =>
      match loads content with
      | .value (.obj fields) => .ok fields
      | .value _ | .invalid => .ok []
      | .tooDeep => .error .recursionError
  | _ => .ok []

/-- `ds`: a `docSource` that is missing is empty. Only a string has `startswith`. -/
def docSource (doc : Listed) : Except Failure Text :=
  (metadataDict loads doc).bind fun metadata =>
    match (Json.getIn metadata (text "docSource")).orElse (.str []) with
    | .str source => .ok source
    | _ => .error .attributeError

/-- `ds == prefix or ds.startswith(prefix) or prefix.startswith(ds)`. -/
def seemsOf (docPrefix source : Text) : Bool :=
  source = docPrefix || Text.startsWith source docPrefix || Text.startsWith docPrefix source

/-- `docpath`. -/
def docpath (doc : Listed) : Json :=
  (Json.getIn doc (text "docpath")).orElse
    ((Json.getIn doc (text "location")).orElse (Json.getIn doc (text "name")))

/-- The path is one of `tracked_paths`. -/
def Tracks (documents : Documents) (path : Path) : Prop :=
  path ≠ [] ∧ ∃ entry ∈ documents.entries, entry.2.allmDocPath = some path

instance (documents : Documents) (path : Path) : Decidable (Tracks documents path) :=
  inferInstanceAs (Decidable (_ ∧ _))

/-- `docpath in tracked_paths`. A list or a dict cannot be hashed. -/
def isTracked (documents : Documents) : Json → Except Failure Bool
  | .str path => .ok (Tracks documents path)
  | .arr _ | .obj _ => .error .typeError
  | _ => .ok false

/-- A loop that keeps the documents that pass a test. -/
def keep (test : Listed → Except Failure Bool) : List Listed → Except Failure (List Listed)
  | [] => .ok []
  | doc :: rest =>
      (test doc).bind fun passes =>
        (keep test rest).map fun kept => if passes then doc :: kept else kept

/-- The loop that fills `matching`. -/
def matching (docPrefix : Text) (docs : List Listed) : Except Failure (List Listed) :=
  keep (fun doc => (docSource loads doc).map (seemsOf docPrefix)) docs

/-- The loop that fills `orphans`. -/
def orphans (documents : Documents) (docs : List Listed) : Except Failure (List Listed) :=
  keep (fun doc => (isTracked documents (docpath doc)).map (!·)) docs

/-- How the script ends. -/
inductive Outcome where
  /-- Return code 2. -/
  | noSource
  | raised (failure : Failure)
  | nothing
  | dryRun
  /-- The embeddings of these are removed, then the files are deleted, whether or not the first
  request failed. -/
  | removed (docs : List Listed)

/-- `main`. -/
def main (world : World) (id : Text) (apply : Bool) : Outcome :=
  match world.sources.find? (·.id = id) with
  | none => .noSource
  | some source =>
      match (matching loads source.docPrefix (world.listed source.workspace)).bind
          (orphans (world.states source.id)) with
      | .error failure => .raised failure
      | .ok orphans =>
          if orphans.isEmpty then .nothing
          else if apply = false then .dryRun
          else .removed (orphans.filter fun doc => (docpath doc).truthy)

/-- The documents that are detached and deleted. -/
def Outcome.deleted : Outcome → List Listed
  | .removed docs => docs
  | _ => []

/-- `orphan_paths`. -/
def Outcome.orphanPaths (outcome : Outcome) : List Json := outcome.deleted.map docpath

/-! ### What is deleted -/

/-- The loop ends on a test that fails, or keeps what passes. -/
theorem keep_cases (test : Listed → Except Failure Bool) (docs : List Listed) :
    ((∃ failure, keep test docs = .error failure) ∧
      ∃ doc ∈ docs, ∃ failure, test doc = .error failure) ∨
    ∃ kept, keep test docs = .ok kept ∧ (∀ doc ∈ docs, ∃ passes, test doc = .ok passes) ∧
      ∀ doc, doc ∈ kept ↔ doc ∈ docs ∧ test doc = .ok true := by
  induction docs with
  | nil => exact .inr ⟨[], rfl, fun _ member => absurd member List.not_mem_nil, fun _ => by simp⟩
  | cons doc rest inductionHypothesis =>
    rw [keep]
    simp only [List.mem_cons, exists_eq_or_imp, forall_eq_or_imp]
    cases here : test doc with
    | error failure => exact .inl ⟨⟨failure, rfl⟩, .inl ⟨failure, rfl⟩⟩
    | ok passes =>
      obtain ⟨⟨failure, stopped⟩, someDoc⟩ | ⟨kept, ended, each, members⟩ := inductionHypothesis
      · rw [stopped]
        exact .inl ⟨⟨failure, rfl⟩, .inr someDoc⟩
      · rw [ended]
        refine .inr ⟨_, rfl, ⟨⟨passes, rfl⟩, each⟩, fun other => ?_⟩
        cases passes with
        | true =>
          show other ∈ doc :: kept ↔ _
          rw [List.mem_cons, members, or_and_right]
          exact or_congr_left ⟨fun same => ⟨same, same ▸ here⟩, And.left⟩
        | false =>
          show other ∈ kept ↔ _
          rw [members]
          refine ⟨fun ⟨inRest, passes⟩ => ⟨.inr inRest, passes⟩, ?_⟩
          rintro ⟨rfl | inRest, passes⟩
          · rw [here] at passes
            cases passes
          · exact ⟨inRest, passes⟩

variable {loads : Text → Loaded} {world : World} {source : SourceConfig} {id : Text}

/-- A loop meets something that ends the script: a `docSource` that is no string, or a document that
seems of the source with a list or a dict for a path. -/
def Stops (loads : Text → Loaded) (world : World) (source : SourceConfig) : Prop :=
  ∃ doc ∈ world.listed source.workspace, (∃ failure, docSource loads doc = .error failure) ∨
    ∃ ds failure, docSource loads doc = .ok ds ∧ seemsOf source.docPrefix ds = true ∧
      isTracked (world.states source.id) (docpath doc) = .error failure

/-- The document seems of the source, and its state does not know it. -/
def IsOrphan (loads : Text → Loaded) (world : World) (source : SourceConfig) (doc : Listed) : Prop :=
  doc ∈ world.listed source.workspace ∧
    (∃ ds, docSource loads doc = .ok ds ∧ seemsOf source.docPrefix ds = true) ∧
      isTracked (world.states source.id) (docpath doc) = .ok false

theorem seems_map_iff {docPrefix : Text} {doc : Listed} {passes : Bool} :
    (docSource loads doc).map (seemsOf docPrefix) = .ok passes ↔
      ∃ ds, docSource loads doc = .ok ds ∧ seemsOf docPrefix ds = passes := by
  cases docSource loads doc with
  | error failure => exact iff_of_false (fun same => by cases same) fun ⟨_, same, _⟩ => by cases same
  | ok ds => simp [Except.map]

theorem notTracked_map_iff {documents : Documents} {path : Json} {passes : Bool} :
    (isTracked documents path).map (!·) = .ok passes ↔ isTracked documents path = .ok !passes := by
  cases isTracked documents path with
  | error failure => exact iff_of_false (fun same => by cases same) fun same => by cases same
  | ok tracked => cases tracked <;> cases passes <;> simp [Except.map]

/-- The two loops stop on an error, or keep the orphans. -/
theorem loops_cases (loads : Text → Loaded) (world : World) (source : SourceConfig) :
    (Stops loads world source ∧ ∃ failure,
      (matching loads source.docPrefix (world.listed source.workspace)).bind
        (orphans (world.states source.id)) = .error failure) ∨
    (¬Stops loads world source ∧ ∃ kept,
      (matching loads source.docPrefix (world.listed source.workspace)).bind
        (orphans (world.states source.id)) = .ok kept ∧
      ∀ doc, doc ∈ kept ↔ IsOrphan loads world source doc) := by
  obtain ⟨⟨failure, stopped⟩, doc, listed, refused⟩ | ⟨matched, ended, read, isMatched⟩ :=
    keep_cases (fun doc => (docSource loads doc).map (seemsOf source.docPrefix))
      (world.listed source.workspace)
  · refine .inl ⟨⟨doc, listed, .inl ?_⟩, failure, by rw [matching, stopped]; rfl⟩
    obtain ⟨failure, refused⟩ := refused
    cases unread : docSource loads doc with
    | error failure => exact ⟨failure, rfl⟩
    | ok ds => rw [unread] at refused; cases refused
  simp only [seems_map_iff] at isMatched
  have bound : (matching loads source.docPrefix (world.listed source.workspace)).bind
      (orphans (world.states source.id)) = orphans (world.states source.id) matched := by
    rw [matching, ended]
    rfl
  rw [bound]
  obtain ⟨⟨failure, stopped⟩, doc, inMatched, refused⟩ | ⟨kept, ended, hashable, isKept⟩ :=
    keep_cases (fun doc => (isTracked (world.states source.id) (docpath doc)).map (!·)) matched
  · obtain ⟨listed, ds, isSource, seems⟩ := (isMatched doc).mp inMatched
    obtain ⟨other, refused⟩ := refused
    refine .inl ⟨⟨doc, listed, .inr ?_⟩, failure, stopped⟩
    cases unhashable : isTracked (world.states source.id) (docpath doc) with
    | error failure => exact ⟨ds, failure, isSource, seems, rfl⟩
    | ok tracked => rw [unhashable] at refused; cases refused
  · refine .inr ⟨?_, kept, ended, fun doc => ?_⟩
    · rintro ⟨doc, listed, ⟨failure, refused⟩ | ⟨ds, failure, isSource, seems, refused⟩⟩
      · obtain ⟨passes, isRead⟩ := read doc listed
        rw [refused] at isRead
        cases isRead
      · obtain ⟨passes, isRead⟩ := hashable doc ((isMatched doc).mpr ⟨listed, ds, isSource, seems⟩)
        rw [refused] at isRead
        cases isRead
    · rw [isKept, isMatched, notTracked_map_iff, and_assoc]
      rfl

/-- With `--apply`, what is deleted is the orphans that have a path, unless a loop stops. -/
theorem mem_deleted_iff (found : world.sources.find? (·.id = id) = some source) (doc : Listed) :
    doc ∈ (main loads world id true).deleted ↔
      ¬Stops loads world source ∧ IsOrphan loads world source doc ∧ (docpath doc).truthy = true := by
  unfold main
  rw [found]
  obtain ⟨stops, failure, stopped⟩ | ⟨goesOn, kept, ended, members⟩ := loops_cases loads world source
  · dsimp only
    rw [stopped]
    exact iff_of_false List.not_mem_nil fun ⟨goesOn, _⟩ => goesOn stops
  · dsimp only
    rw [ended]
    dsimp only
    rw [← members]
    cases kept with
    | nil => simp [Outcome.deleted, goesOn]
    | cons first rest =>
      show doc ∈ (first :: rest).filter (fun doc => (docpath doc).truthy) ↔ _
      rw [List.mem_filter]
      simp only [goesOn, not_false_eq_true, true_and]

/-! ### Whose documents they are -/

/-- Nothing is deleted that the state of a source holds, or that has another `docSource`. -/
def Confined (loads : Text → Loaded) (world : World) (source : SourceConfig) (outcome : Outcome) :
    Prop :=
  (∀ other ∈ world.sources, ∀ path, Json.str path ∈ outcome.orphanPaths →
    ¬Tracks (world.states other.id) path) ∧
  ∀ doc ∈ outcome.deleted, docSource loads doc = .ok source.docPrefix

/-- The document has a path, and the state of the source does not hold it. -/
def Unknown (world : World) (source : SourceConfig) (doc : Listed) : Prop :=
  (docpath doc).truthy = true ∧ isTracked (world.states source.id) (docpath doc) = .ok false

/-- No unknown document has a `docSource` that begins as the prefix does or that the prefix begins
with, which an empty one always does, and none with the prefix itself is held by another source. -/
structure Apart (loads : Text → Loaded) (world : World) (source : SourceConfig) : Prop where
  unrelated : ∀ doc ∈ world.listed source.workspace, Unknown world source doc →
    ∀ ds, docSource loads doc = .ok ds → ds ≠ source.docPrefix →
      ¬source.docPrefix <+: ds ∧ ¬ds <+: source.docPrefix
  notHeld : ∀ doc ∈ world.listed source.workspace, Unknown world source doc →
    docSource loads doc = .ok source.docPrefix →
      ∀ other ∈ world.sources, ∀ path, docpath doc = .str path → ¬Tracks (world.states other.id) path

theorem seemsOf_iff {docPrefix ds : Text} :
    seemsOf docPrefix ds = true ↔ ds = docPrefix ∨ docPrefix <+: ds ∨ ds <+: docPrefix := by
  simp only [seemsOf, Text.startsWith, Bool.or_eq_true, decide_eq_true_eq, List.isPrefixOf_iff_prefix,
    or_assoc]

/-- The cleanup of a source keeps to the source's orphans exactly where it stops before it deletes, or
the listed documents that the source does not know are apart from it. -/
theorem confined_iff (found : world.sources.find? (·.id = id) = some source) :
    Confined loads world source (main loads world id true) ↔
      Stops loads world source ∨ Apart loads world source := by
  have deleted (doc : Listed) := (mem_deleted_iff found doc : _ ∈ (main loads world id true).deleted ↔ _)
  constructor
  · rintro ⟨notHeld, ownSource⟩
    refine or_iff_not_imp_left.mpr fun goesOn => ⟨?_, ?_⟩
    · intro doc listed unknown ds isSource other
      have differs : ¬seemsOf source.docPrefix ds = true := fun seems => by
        have own := ownSource doc ((deleted doc).mpr
          ⟨goesOn, ⟨listed, ⟨ds, isSource, seems⟩, unknown.2⟩, unknown.1⟩)
        rw [isSource] at own
        exact other (Except.ok.inj own)
      rw [seemsOf_iff, not_or, not_or] at differs
      exact differs.2
    · intro doc listed unknown isSource other isOther path isPath
      have inDeleted := (deleted doc).mpr
        ⟨goesOn, ⟨listed, ⟨_, isSource, seemsOf_iff.mpr (.inl rfl)⟩, unknown.2⟩, unknown.1⟩
      exact notHeld other isOther path (isPath ▸ List.mem_map_of_mem inDeleted)
  · intro condition
    have own : ∀ doc ∈ (main loads world id true).deleted,
        doc ∈ world.listed source.workspace ∧ Unknown world source doc ∧
          docSource loads doc = .ok source.docPrefix ∧ Apart loads world source := by
      intro doc member
      obtain ⟨goesOn, ⟨listed, ⟨ds, isSource, seems⟩, notTracked⟩, truthy⟩ := (deleted doc).mp member
      have apart := condition.resolve_left goesOn
      refine ⟨listed, ⟨truthy, notTracked⟩, ?_, apart⟩
      by_cases same : ds = source.docPrefix
      · rw [isSource, same]
      · have unrelated := apart.unrelated doc listed ⟨truthy, notTracked⟩ ds isSource same
        rw [seemsOf_iff] at seems
        exact absurd (seems.resolve_left same) (not_or.mpr unrelated)
    refine ⟨fun other isOther path isPath => ?_, fun doc member => (own doc member).2.2.1⟩
    obtain ⟨doc, member, same⟩ := List.mem_map.mp isPath
    obtain ⟨listed, unknown, isSource, apart⟩ := own doc member
    exact apart.notHeld doc listed unknown isSource other isOther path same

/-- No metadata is a string. -/
def noStrings : Text → Loaded := fun _ => .invalid

def keycloakDocs : SourceConfig :=
  ⟨text "keycloak-docs", text "sdg-documentation", text "[OFFICIAL] keycloak/docs"⟩

def opnsenseDocs : SourceConfig :=
  ⟨text "opnsense-docs", text "sdg-documentation", text "[OFFICIAL] opnsense/docs"⟩

def firewallPath : Path := text "custom-documents/raw-opnsense-firewall.json"

/-- The one document of a workspace of two sources: its metadata is null, and the second source's
state holds it. -/
def sharedWorkspace : World where
  sources := [keycloakDocs, opnsenseDocs]
  states id :=
    if id = opnsenseDocs.id then
      AList.singleton (text "https://docs.opnsense.org/manual/firewall.html")
        ⟨some (text "migrated"), [], some firewallPath⟩
    else ∅
  listed _ := [[(text "docpath", .str firewallPath), (text "metadata", .null)]]

/-- The second source knows the document, so its own cleanup keeps it. -/
theorem confined_opnsense : Confined noStrings sharedWorkspace opnsenseDocs
    (main noStrings sharedWorkspace (text "opnsense-docs") true) := by
  have known : ∀ doc ∈ sharedWorkspace.listed opnsenseDocs.workspace,
      ¬Unknown sharedWorkspace opnsenseDocs doc := by
    intro doc listed unknown
    rw [List.mem_singleton.mp listed] at unknown
    have tracked : Tracks (sharedWorkspace.states opnsenseDocs.id) firewallPath := by decide
    have untracked := unknown.2
    rw [show docpath _ = .str firewallPath from rfl, isTracked, decide_eq_true tracked] at untracked
    cases untracked
  exact (confined_iff (by decide)).mpr
    (.inr ⟨fun doc listed unknown => absurd unknown (known doc listed),
      fun doc listed unknown => absurd unknown (known doc listed)⟩)

/-- The cleanup of the first source deletes the live document of the second. -/
theorem not_confined_keycloak :
    ¬Confined noStrings sharedWorkspace keycloakDocs
      (main noStrings sharedWorkspace (text "keycloak-docs") true) := by
  intro confined
  have member : Json.str firewallPath ∈
      (main noStrings sharedWorkspace (text "keycloak-docs") true).orphanPaths := by
    have paths : (main noStrings sharedWorkspace (text "keycloak-docs") true).orphanPaths =
        [.str firewallPath] := by
      rfl
    rw [paths]
    exact List.mem_singleton_self _
  refine confined.1 opnsenseDocs (by decide) firewallPath member ?_
  decide

end Cleanup

end Rag

end LocalGpuCluster
