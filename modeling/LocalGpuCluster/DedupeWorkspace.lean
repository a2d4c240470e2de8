/-
This file is about `dedupe-workspace.py`, which takes away the rows that a workspace has twice. A call
of `update-embeddings` deletes one row of each path that it names, so the tool asks for the workspace
again before each batch and names only the paths that still have two rows. No step of it takes the last
row of a path, whatever other clients do, as long as none of them detaches between the last look and the
call. Alone it takes ten rows of a path at most, and its exit code says whether that was enough.
-/

import LocalGpuCluster.Machine
import LocalGpuCluster.RagApplied
import LocalGpuCluster.RagHandlers

namespace LocalGpuCluster

namespace Rag

namespace Dedupe

/-! ### The tool -/

/-- The arguments that the loops read. Without `--apply` the tool only counts. -/
structure Args where
  apply : Bool
  batchSize : ℤ
  limit : ℤ

/-- The paths with more than one row, sorted. A row without a path is none. -/
def duplicated (rows : List Path) : List Path :=
  sortedSet (rows.filter fun path => path ≠ [] && 1 < rows.count path)

/-- `targets[:args.limit]` where there is a limit. -/
def limited (limit : ℤ) (targets : List Path) : List Path :=
  if limit = 0 then targets
  else if 0 < limit then targets.take limit.toNat
  else targets.take (targets.length - limit.natAbs)

/-- `batched`, `none` where `range` raises. -/
def batched (batchSize : ℤ) (targets : List Path) : Option (List (List Path)) :=
  if batchSize = 0 then none
  else if 0 < batchSize then some (chunks batchSize.toNat targets)
  else some []

/-- Where the tool is. In all phases but the last two it waits for an answer of the API. -/
inductive Phase where
  | counting
  | round (rounds : ℕ)
  | batches (rounds : ℕ) (rest : List (List Path))
  | deleting (rounds : ℕ) (safe : List Path) (rest : List (List Path))
  | reporting
  | ended (code : ℕ)
  | raised
  deriving DecidableEq

/-- The head of `while True`. -/
def nextRound (rounds : ℕ) : Phase := if rounds + 1 > 10 then .reporting else .round (rounds + 1)

/-- The head of the loop over the batches, and what follows it. -/
def nextBatch (args : Args) (rounds : ℕ) : List (List Path) → Phase
  | [] => if args.limit ≠ 0 then .reporting else nextRound rounds
  | batch :: rest => .batches rounds (batch :: rest)

/-- What the tool does with the paths of the workspace. -/
def onRows (args : Args) (rows : List Path) : Phase → Option Phase
  | .counting => some (if duplicated rows = [] ∨ ¬ args.apply then .ended 0 else nextRound 0)
  | .round rounds =>
      let targets := limited args.limit (duplicated rows)
      if targets = [] then some .reporting
      else
        match batched args.batchSize targets with
        | none => some .raised
        | some batches => some (nextBatch args rounds batches)
  | .batches rounds (batch :: rest) =>
      let safe := batch.filter fun path => 1 < rows.count path
      some (if safe = [] then nextBatch args rounds rest else .deleting rounds safe rest)
  | .reporting => some (.ended (if duplicated rows = [] then 0 else 1))
  | _ => none

/-! ### The tool and other clients -/

structure State where
  rows : List Path
  phase : Phase

/-- How a call of `update-embeddings` ends. One that fails may have deleted some rows. -/
inductive Deletion where
  | done
  | failed (reached : Path → Bool)

inductive Event where
  /-- `workspace_docpaths` answers, or raises. -/
  | read (answers : Bool)
  | delete (deletion : Deletion)
  /-- Other clients leave these rows. -/
  | others (rows : List Path)

/-- `update-embeddings` with `deletes` alone: one row goes for each path. -/
def dropOneEach (rows deletes : List Path) : List Path := rows.diff deletes

def step (args : Args) (state : State) : Event → Option State
  | .read answers =>
      (onRows args state.rows state.phase).map fun phase =>
        { state with phase := if answers then phase else .raised }
  | .delete deletion =>
      match state.phase with
      | .deleting rounds safe rest =>
          match deletion with
          | .done => some ⟨dropOneEach state.rows safe, nextBatch args rounds rest⟩
          | .failed reached => some ⟨dropOneEach state.rows (safe.filter reached), .raised⟩
      | _ => none
  | .others rows => some { state with rows }

def tool (args : Args) : Machine State Event := ⟨step args⟩

variable {args : Args} {rows targets deletes : List Path} {path : Path}

/-! ### The paths with more than one row -/

theorem mem_duplicated_iff : path ∈ duplicated rows ↔ path ≠ [] ∧ 1 < rows.count path := by
  unfold duplicated sortedSet
  rw [List.mem_insertionSort, List.mem_dedup, List.mem_filter, Bool.and_eq_true, decide_eq_true_eq,
    decide_eq_true_eq]
  exact and_iff_right_of_imp fun ⟨_, many⟩ => List.count_pos_iff.mp (Nat.zero_lt_of_lt many)

theorem duplicated_eq_nil_iff : duplicated rows = [] ↔ ∀ path ≠ [], rows.count path ≤ 1 := by
  rw [List.eq_nil_iff_forall_not_mem]
  refine forall_congr' fun path => ?_
  rw [mem_duplicated_iff, not_and, not_lt]

theorem limited_sublist (limit : ℤ) (targets : List Path) :
    (limited limit targets).Sublist targets := by
  unfold limited
  split
  · exact List.Sublist.refl targets
  · split <;> exact List.take_sublist _ _

theorem nodup_limited (limit : ℤ) (rows : List Path) : (limited limit (duplicated rows)).Nodup :=
  (nodup_sortedSet _).sublist (limited_sublist limit _)

theorem flatten_batched {batchSize : ℤ} {batches : List (List Path)} (positive : 0 < batchSize)
    (isBatched : batched batchSize targets = some batches) : batches.flatten = targets := by
  unfold batched at isBatched
  rw [if_neg positive.ne', if_pos positive, Option.some_inj] at isBatched
  rw [← isBatched, flatten_chunks (by omega)]

theorem batched_sublist {batchSize : ℤ} {batches : List (List Path)}
    (isBatched : batched batchSize targets = some batches) : batches.flatten.Sublist targets := by
  by_cases positive : 0 < batchSize
  · rw [flatten_batched positive isBatched]
  · unfold batched at isBatched
    rw [if_neg positive] at isBatched
    split at isBatched
    · cases isBatched
    · cases isBatched
      exact List.nil_sublist _

/-! ### A call of `update-embeddings` -/

theorem count_dropOneEach (nodup : deletes.Nodup) (rows : List Path) (path : Path) :
    (dropOneEach rows deletes).count path = rows.count path - if path ∈ deletes then 1 else 0 := by
  unfold dropOneEach
  induction deletes generalizing rows with
  | nil => rw [List.diff_nil, if_neg List.not_mem_nil, Nat.sub_zero]
  | cons first rest inductionHypothesis =>
    obtain ⟨fresh, restNodup⟩ := List.nodup_cons.mp nodup
    rw [List.diff_cons, inductionHypothesis restNodup, List.count_erase]
    by_cases same : path = first
    · subst same
      rw [if_neg fresh, if_pos List.mem_cons_self, if_pos (beq_self_eq_true path), Nat.sub_zero]
    · rw [if_neg (by simpa using Ne.symm same), Nat.sub_zero]
      simp only [List.mem_cons, same, false_or]

/-- Paths with more than one row keep one. -/
theorem mem_dropOneEach_iff (nodup : deletes.Nodup) (many : ∀ path ∈ deletes, 1 < rows.count path) :
    path ∈ dropOneEach rows deletes ↔ path ∈ rows := by
  rw [← List.count_pos_iff, ← List.count_pos_iff, count_dropOneEach nodup]
  split
  next isDeleted =>
    have left := many path isDeleted
    omega
  next => rw [Nat.sub_zero]

/-- Where no path has two rows, this is what the refreshes take `update-embeddings` to do. -/
theorem dropOneEach_eq_updateEmbeddings (nodup : rows.Nodup) (deletes : List Path) :
    dropOneEach rows deletes = updateEmbeddings rows [] deletes := by
  unfold dropOneEach updateEmbeddings
  rw [List.append_nil, nodup.sdiff_eq_filter]

/-! ### No step takes the last row of a path -/

/-- What the tool is about to do is safe in the workspace as it is. -/
def Careful (rows : List Path) : Phase → Prop
  | .batches _ rest => rest.flatten.Nodup
  | .deleting _ safe rest =>
      (safe ++ rest.flatten).Nodup ∧ ∀ path ∈ safe, 1 < rows.count path
  | _ => True

/-- Other clients do not detach what the tool has just found safe to delete. -/
def Apart (state : State) (event : Event) : Prop :=
  ∀ rounds safe rest rows, state.phase = .deleting rounds safe rest → event = .others rows →
    ∀ path ∈ safe, state.rows.count path ≤ rows.count path

theorem careful_nextRound (rows : List Path) (rounds : ℕ) : Careful rows (nextRound rounds) := by
  unfold nextRound
  split <;> trivial

theorem careful_nextBatch (rows : List Path) (rounds : ℕ) {rest : List (List Path)}
    (nodup : rest.flatten.Nodup) : Careful rows (nextBatch args rounds rest) := by
  cases rest with
  | nil =>
    rw [nextBatch]
    split
    · trivial
    · exact careful_nextRound rows rounds
  | cons batch rest => exact nodup

/-- The paths that are found safe have two rows at that moment. -/
theorem careful_onRows {phase following : Phase} (careful : Careful rows phase)
    (goesOn : onRows args rows phase = some following) : Careful rows following := by
  cases phase with
  | counting =>
    cases goesOn
    split
    · trivial
    · exact careful_nextRound rows 0
  | round rounds =>
    rw [onRows] at goesOn
    split at goesOn
    · cases goesOn
      trivial
    · split at goesOn
      · cases goesOn
        trivial
      next batches isBatched =>
        cases goesOn
        exact careful_nextBatch rows rounds ((nodup_limited _ _).sublist (batched_sublist isBatched))
  | batches rounds rest =>
    cases rest with
    | nil => cases goesOn
    | cons batch rest =>
      have nodup : (batch ++ rest.flatten).Nodup := careful
      cases goesOn
      split
      · exact careful_nextBatch rows rounds (List.nodup_append.mp nodup).2.1
      · refine ⟨nodup.sublist (List.filter_sublist.append_right _), fun path isSafe => ?_⟩
        exact of_decide_eq_true (List.mem_filter.mp isSafe).2
  | reporting =>
    cases goesOn
    trivial
  | deleting rounds safe rest => cases goesOn
  | ended code => cases goesOn
  | raised => cases goesOn

theorem Careful.of_step {state next : State} {event : Event} (careful : Careful state.rows state.phase)
    (apart : Apart state event) (stepped : step args state event = some next) :
    Careful next.rows next.phase := by
  obtain ⟨rows, phase⟩ := state
  cases event with
  | read answers =>
    obtain ⟨following, goesOn, rfl⟩ := Option.map_eq_some_iff.mp stepped
    cases answers with
    | true => exact careful_onRows careful goesOn
    | false => trivial
  | delete deletion =>
    cases phase with
    | deleting rounds safe rest =>
      cases deletion with
      | done =>
        cases stepped
        exact careful_nextBatch _ rounds (List.nodup_append.mp careful.1).2.1
      | failed reached =>
        cases stepped
        trivial
    | _ => cases stepped
  | others others =>
    cases stepped
    cases phase with
    | deleting rounds safe rest =>
      refine ⟨careful.1, fun path isSafe => lt_of_lt_of_le (careful.2 path isSafe) ?_⟩
      exact apart rounds safe rest others rfl rfl path isSafe
    | batches rounds rest => exact careful
    | _ => trivial

/-- A step of the tool leaves the workspace with the same paths. -/
theorem Careful.mem_rows_iff {state next : State} {event : Event}
    (careful : Careful state.rows state.phase) (stepped : step args state event = some next)
    (own : ∀ rows, event ≠ .others rows) (path : Path) :
    path ∈ next.rows ↔ path ∈ state.rows := by
  obtain ⟨rows, phase⟩ := state
  cases event with
  | read answers =>
    obtain ⟨following, goesOn, rfl⟩ := Option.map_eq_some_iff.mp stepped
    exact Iff.rfl
  | delete deletion =>
    cases phase with
    | deleting rounds safe rest =>
      have nodup := (List.nodup_append.mp careful.1).1
      cases deletion with
      | done =>
        cases stepped
        exact mem_dropOneEach_iff nodup careful.2
      | failed reached =>
        cases stepped
        exact mem_dropOneEach_iff (nodup.filter _) fun path isReached =>
          careful.2 path (List.mem_of_mem_filter isReached)
    | _ => cases stepped
  | others rows => exact absurd rfl (own rows)

/-- Whatever other clients do besides, the tool takes the last row of no path, and adds none. -/
theorem paths_kept {events : List Event} {state next : State} {event : Event}
    (ran : (tool args).run ⟨rows, .counting⟩ events = some state)
    (apart : (tool args).Guarded Apart ⟨rows, .counting⟩ events)
    (stepped : (tool args).step state event = some next) (own : ∀ rows, event ≠ .others rows) :
    ∀ path, path ∈ next.rows ↔ path ∈ state.rows := by
  have careful : Careful state.rows state.phase :=
    (tool args).run_invariant_of_guarded Apart (fun state => Careful state.rows state.phase)
      (fun _ _ _ apart stepped careful => careful.of_step apart stepped) apart ran trivial
  exact careful.mem_rows_iff stepped own

def exampleArgs : Args := ⟨true, 200, 0⟩

def pathA : Path := text "a"

def pathB : Path := text "b"

/-- The first batch of a workspace with one path twice, while another client attaches a path. -/
def firstBatch : List Event :=
  [.read true, .read true, .others [pathA, pathB, pathA, pathB], .read true]

theorem apart_firstBatch :
    (tool exampleArgs).Guarded Apart ⟨[pathA, pathB, pathA], .counting⟩ firstBatch := by
  refine ⟨nofun, fun _ counted => ?_⟩
  cases counted
  refine ⟨nofun, fun _ looked => ?_⟩
  cases looked
  refine ⟨fun _ _ _ _ deleting => ?_, fun _ attached => ?_⟩
  · cases deleting
  · cases attached
    exact ⟨nofun, fun _ _ => trivial⟩

theorem example_paths_kept : ∃ state next,
    (tool exampleArgs).run ⟨[pathA, pathB, pathA], .counting⟩ firstBatch = some state ∧
      (tool exampleArgs).step state (.delete .done) = some next ∧
      ∀ path, path ∈ next.rows ↔ path ∈ state.rows :=
  ⟨⟨[pathA, pathB, pathA, pathB], .deleting 1 [pathA] []⟩, ⟨[pathB, pathA, pathB], .round 2⟩, rfl, rfl,
    paths_kept rfl apart_firstBatch
      (show (tool exampleArgs).step _ (.delete .done) = some _ from rfl) nofun⟩

/-! ### What the tool does alone -/

def Event.Succeeds : Event → Prop
  | .read answers => answers = true
  | .delete deletion => deletion = .done
  | .others _ => False

/-- How many rows of a path are left after so many rounds. Under a limit there is one round, for the
first paths. -/
def left (args : Args) (start : List Path) (rounds : ℕ) (path : Path) : ℕ :=
  start.count path -
    if args.limit = 0 then (if path = [] then 0 else min rounds (start.count path - 1))
    else if 0 < rounds ∧ path ∈ limited args.limit (duplicated start) then 1 else 0

/-- How many rows of a path the tool leaves. -/
def settled (args : Args) (start : List Path) (path : Path) : ℕ :=
  left args start (if args.limit = 0 then 10 else 1) path

/-- The rows of a round that still waits to delete a row of each of these paths. -/
structure Waiting (args : Args) (start : List Path) (rounds : ℕ) (paths rows : List Path) : Prop where
  nodup : paths.Nodup
  keeps : ∀ path ∈ paths, 0 < left args start rounds path
  count : ∀ path, rows.count path = left args start rounds path + if path ∈ paths then 1 else 0

structure InRound (args : Args) (rounds : ℕ) : Prop where
  positive : 0 < rounds
  atMost : rounds ≤ 10
  limited : args.limit ≠ 0 → rounds = 1

/-- What the tool has done so far, in each phase. -/
def Due (args : Args) (start rows : List Path) : Phase → Prop
  | .counting => rows = start
  | .round rounds =>
      InRound args rounds ∧ (rounds = 1 → rows = start) ∧
        ∀ path, rows.count path = left args start (rounds - 1) path
  | .batches rounds rest => InRound args rounds ∧ Waiting args start rounds rest.flatten rows
  | .deleting rounds safe rest =>
      InRound args rounds ∧ Waiting args start rounds (safe ++ rest.flatten) rows
  | .reporting => ∀ path, rows.count path = settled args start path
  | .ended code =>
      (∀ path, rows.count path = settled args start path) ∧
        (code = 0 ↔ ∀ path ≠ [], settled args start path ≤ 1)
  | .raised => False

variable {start : List Path} {rounds : ℕ}

theorem left_zero (args : Args) (start : List Path) (path : Path) :
    left args start 0 path = start.count path := by
  simp [left]

/-- A workspace without paths that have two rows stays as it is. -/
theorem left_of_clean (clean : duplicated start = []) (rounds : ℕ) (path : Path) :
    left args start rounds path = start.count path := by
  unfold left limited
  rw [clean, List.take_nil, List.take_nil]
  have once := duplicated_eq_nil_iff.mp clean path
  split
  · split
    · rfl
    next named =>
      have atMost := once named
      omega
  · simp

theorem settled_eq_of_few (unlimited : args.limit = 0) (atMost : rounds ≤ 10)
    (few : path ≠ [] → left args start rounds path ≤ 1) :
    settled args start path = left args start rounds path := by
  unfold settled left at *
  rw [if_pos unlimited] at *
  simp only [unlimited, if_true] at *
  split
  · rfl
  next named =>
    have bound := few named
    rw [if_neg named] at bound
    omega

/-- When all rows of a round are deleted, the tool reports or begins the next one. -/
theorem due_nextRound (inRound : InRound args rounds) (unlimited : args.limit = 0)
    (counts : ∀ path, rows.count path = left args start rounds path) :
    Due args start rows (nextRound rounds) := by
  unfold nextRound
  have positive := inRound.positive
  split
  next last =>
    have isLast : rounds = 10 := by
      have atMost := inRound.atMost
      omega
    intro path
    rw [counts, settled, if_pos unlimited, isLast]
  next notLast =>
    exact ⟨⟨by omega, by omega, fun isLimited => absurd unlimited isLimited⟩, fun first => by omega,
      counts⟩

theorem due_nextBatch {rest : List (List Path)} (inRound : InRound args rounds)
    (waiting : Waiting args start rounds rest.flatten rows) :
    Due args start rows (nextBatch args rounds rest) := by
  cases rest with
  | nil =>
    have counts (path : Path) : rows.count path = left args start rounds path := by
      simpa using waiting.count path
    rw [nextBatch]
    split
    next isLimited =>
      intro path
      rw [counts, settled, if_neg isLimited, inRound.limited isLimited]
    next unlimited => exact due_nextRound inRound (not_not.mp unlimited) counts
  | cons batch rest => exact ⟨inRound, waiting⟩

/-- The paths that a round chooses have a row to spare. -/
theorem waiting_targets (inRound : InRound args rounds) (first : rounds = 1 → rows = start)
    (counts : ∀ path, rows.count path = left args start (rounds - 1) path) :
    Waiting args start rounds (limited args.limit (duplicated rows)) rows := by
  have positive := inRound.positive
  have spare {path : Path} (chosen : path ∈ limited args.limit (duplicated rows)) :
      path ≠ [] ∧ 1 < rows.count path :=
    mem_duplicated_iff.mp ((limited_sublist _ _).subset chosen)
  by_cases unlimited : args.limit = 0
  · have chosenIff (path : Path) : path ∈ limited args.limit (duplicated rows) ↔
        path ≠ [] ∧ 1 < left args start (rounds - 1) path := by
      rw [limited, if_pos unlimited, mem_duplicated_iff, counts]
    refine ⟨nodup_limited _ _, fun path chosen => ?_, fun path => ?_⟩
    · obtain ⟨named, many⟩ := (chosenIff path).mp chosen
      unfold left at many ⊢
      rw [if_pos unlimited, if_neg named] at *
      omega
    · rw [counts, if_congr (chosenIff path) rfl rfl]
      unfold left
      rw [if_pos unlimited, if_pos unlimited]
      by_cases named : path = []
      · simp [named]
      · simp only [named, ne_eq, not_false_iff, true_and, if_false]
        split <;> omega
  · have isFirst := inRound.limited unlimited
    obtain rfl := first isFirst
    refine ⟨nodup_limited _ _, fun path chosen => ?_, fun path => ?_⟩
    · have many := (spare chosen).2
      rw [left, if_neg unlimited, if_pos ⟨positive, chosen⟩]
      omega
    · rw [left, if_neg unlimited]
      simp only [positive, true_and]
      split
      next chosen =>
        have many := (spare chosen).2
        omega
      next => rw [Nat.sub_zero, Nat.add_zero]

/-- A round that finds nothing to do is the end. -/
theorem settled_of_noTarget (inRound : InRound args rounds) (first : rounds = 1 → rows = start)
    (counts : ∀ path, rows.count path = left args start (rounds - 1) path)
    (noTarget : limited args.limit (duplicated rows) = []) (path : Path) :
    rows.count path = settled args start path := by
  by_cases unlimited : args.limit = 0
  · rw [limited, if_pos unlimited] at noTarget
    have atMost := inRound.atMost
    rw [counts, settled_eq_of_few unlimited (by omega : rounds - 1 ≤ 10) fun named => ?_]
    rw [← counts]
    exact duplicated_eq_nil_iff.mp noTarget path named
  · obtain rfl := first (inRound.limited unlimited)
    rw [settled, if_neg unlimited, left, if_neg unlimited, noTarget]
    simp

theorem due_onRows {phase following : Phase} (positive : 0 < args.batchSize)
    (applies : args.apply = true) (due : Due args start rows phase)
    (goesOn : onRows args rows phase = some following) :
    Due args start rows following := by
  cases phase with
  | counting =>
    obtain rfl := due
    simp only [onRows, applies, not_true_eq_false, or_false, Option.some_inj] at goesOn
    split at goesOn
    next clean =>
      obtain rfl := goesOn
      have unchanged (path : Path) : settled args rows path = rows.count path :=
        left_of_clean clean _ path
      refine ⟨fun path => (unchanged path).symm, iff_of_true rfl fun path named => ?_⟩
      rw [unchanged]
      exact duplicated_eq_nil_iff.mp clean path named
    next =>
      obtain rfl := goesOn
      exact ⟨⟨Nat.one_pos, by decide, fun _ => rfl⟩, fun _ => rfl,
        fun path => (left_zero args rows path).symm⟩
  | round rounds =>
    obtain ⟨inRound, first, counts⟩ := due
    rw [onRows] at goesOn
    split at goesOn
    next noTarget =>
      cases goesOn
      exact settled_of_noTarget inRound first counts noTarget
    next =>
      split at goesOn
      next raises =>
        rw [batched, if_neg positive.ne', if_pos positive] at raises
        cases raises
      next batches isBatched =>
        cases goesOn
        refine due_nextBatch inRound ?_
        rw [flatten_batched positive isBatched]
        exact waiting_targets inRound first counts
  | batches rounds rest =>
    cases rest with
    | nil => cases goesOn
    | cons batch rest =>
      obtain ⟨inRound, waiting⟩ := due
      have allSafe : batch.filter (fun path => 1 < rows.count path) = batch := by
        refine List.filter_eq_self.mpr fun path inBatch => decide_eq_true ?_
        have chosen : path ∈ (batch :: rest).flatten := List.mem_append_left _ inBatch
        have keeps := waiting.keeps path chosen
        rw [waiting.count, if_pos chosen]
        omega
      rw [onRows, allSafe, Option.some_inj] at goesOn
      split at goesOn
      next isEmpty =>
        subst goesOn
        rw [isEmpty] at waiting
        exact due_nextBatch inRound waiting
      next =>
        subst goesOn
        exact ⟨inRound, waiting⟩
  | reporting =>
    have counts : ∀ path, rows.count path = settled args start path := due
    cases goesOn
    refine ⟨counts, ?_⟩
    simp only [← counts]
    rw [← duplicated_eq_nil_iff]
    split
    next clean => exact iff_of_true rfl clean
    next notClean => exact iff_of_false Nat.one_ne_zero notClean
  | deleting rounds safe rest => cases goesOn
  | ended code => cases goesOn
  | raised => cases goesOn

/-- A call deletes the rows that its batch waits for. -/
theorem Waiting.deleted {safe rest : List Path}
    (waiting : Waiting args start rounds (safe ++ rest) rows) :
    Waiting args start rounds rest (dropOneEach rows safe) := by
  obtain ⟨safeNodup, restNodup, apart⟩ := List.nodup_append.mp waiting.nodup
  refine ⟨restNodup, fun path inRest => waiting.keeps path (List.mem_append_right _ inRest),
    fun path => ?_⟩
  rw [count_dropOneEach safeNodup, waiting.count]
  by_cases isSafe : path ∈ safe
  · have notLater : path ∉ rest := fun inRest => apart path isSafe path inRest rfl
    rw [if_pos isSafe, if_pos (List.mem_append_left _ isSafe), if_neg notLater]
    omega
  · rw [if_neg isSafe, Nat.sub_zero]
    simp only [List.mem_append, isSafe, false_or]

theorem due_of_step {state next : State} {event : Event} (positive : 0 < args.batchSize)
    (applies : args.apply = true) (succeeds : event.Succeeds)
    (stepped : step args state event = some next) (due : Due args start state.rows state.phase) :
    Due args start next.rows next.phase := by
  obtain ⟨rows, phase⟩ := state
  cases event with
  | read answers =>
    obtain ⟨following, goesOn, rfl⟩ := Option.map_eq_some_iff.mp stepped
    obtain rfl : answers = true := succeeds
    exact due_onRows positive applies due goesOn
  | delete deletion =>
    obtain rfl : deletion = .done := succeeds
    cases phase with
    | deleting rounds safe rest =>
      cases stepped
      exact due_nextBatch due.1 due.2.deleted
    | _ => cases stepped
  | others rows => exact succeeds.elim

/-! ### The tool ends -/

/-- The rest of a run without failures leads from one state to another. -/
def Leads (args : Args) (state finish : State) : Prop :=
  ∃ events : List Event, (∀ event ∈ events, event.Succeeds) ∧
    (tool args).run state events = some finish

theorem Leads.refl (state : State) : Leads args state state :=
  ⟨[], fun _ member => absurd member List.not_mem_nil, rfl⟩

theorem Leads.after {state next finish : State} {event : Event} (leads : Leads args next finish)
    (stepped : step args state event = some next) (succeeds : event.Succeeds) :
    Leads args state finish := by
  obtain ⟨events, allSucceed, ran⟩ := leads
  refine ⟨event :: events, List.forall_mem_cons.mpr ⟨succeeds, allSucceed⟩, ?_⟩
  exact (tool args).run_cons_eq_some.mpr ⟨next, stepped, ran⟩

/-- The loop over the batches ends when what follows it does. -/
theorem leads_batches
    (after : ∀ rows, ∃ finish code, Leads args ⟨rows, nextBatch args rounds []⟩ ⟨finish, .ended code⟩)
    (rest : List (List Path)) (rows : List Path) :
    ∃ finish code, Leads args ⟨rows, nextBatch args rounds rest⟩ ⟨finish, .ended code⟩ := by
  induction rest generalizing rows with
  | nil => exact after rows
  | cons batch rest inductionHypothesis =>
    by_cases nothing : batch.filter (fun path => 1 < rows.count path) = []
    · obtain ⟨finish, code, leads⟩ := inductionHypothesis rows
      have looked : step args ⟨rows, .batches rounds (batch :: rest)⟩ (.read true) =
          some ⟨rows, nextBatch args rounds rest⟩ := by
        rw [step, onRows, if_pos nothing]
        rfl
      exact ⟨finish, code, leads.after looked rfl⟩
    · obtain ⟨finish, code, leads⟩ := inductionHypothesis
        (dropOneEach rows (batch.filter fun path => 1 < rows.count path))
      have looked : step args ⟨rows, .batches rounds (batch :: rest)⟩ (.read true) =
          some ⟨rows, .deleting rounds (batch.filter fun path => 1 < rows.count path) rest⟩ := by
        rw [step, onRows, if_neg nothing]
        rfl
      have deleted : step args
          ⟨rows, .deleting rounds (batch.filter fun path => 1 < rows.count path) rest⟩ (.delete .done) =
            some ⟨dropOneEach rows (batch.filter fun path => 1 < rows.count path),
              nextBatch args rounds rest⟩ := rfl
      exact ⟨finish, code, (leads.after deleted rfl).after looked rfl⟩

theorem leads_reporting (args : Args) (rows : List Path) :
    ∃ finish code, Leads args ⟨rows, .reporting⟩ ⟨finish, .ended code⟩ := by
  have reported : step args ⟨rows, .reporting⟩ (.read true) =
      some ⟨rows, .ended (if duplicated rows = [] then 0 else 1)⟩ := rfl
  exact ⟨rows, _, (Leads.refl _).after reported rfl⟩

/-- The rounds end: there are ten at most. -/
theorem leads_rounds (positive : 0 < args.batchSize) (remaining : ℕ) (few : remaining ≤ 10)
    (rows : List Path) :
    ∃ finish code, Leads args ⟨rows, nextRound (10 - remaining)⟩ ⟨finish, .ended code⟩ := by
  induction remaining generalizing rows with
  | zero => exact leads_reporting args rows
  | succ remaining inductionHypothesis =>
    have next : nextRound (10 - (remaining + 1)) = .round (10 - remaining) := by
      rw [nextRound, if_neg (by omega)]
      congr 1
      omega
    rw [next]
    by_cases noTarget : limited args.limit (duplicated rows) = []
    · obtain ⟨finish, code, leads⟩ := leads_reporting args rows
      have looked : step args ⟨rows, .round (10 - remaining)⟩ (.read true) =
          some ⟨rows, .reporting⟩ := by
        rw [step, onRows, if_pos noTarget]
        rfl
      exact ⟨finish, code, leads.after looked rfl⟩
    · have after (rows : List Path) : ∃ finish code,
          Leads args ⟨rows, nextBatch args (10 - remaining) []⟩ ⟨finish, .ended code⟩ := by
        rw [nextBatch]
        split
        · exact leads_reporting args rows
        · exact inductionHypothesis (by omega) rows
      obtain ⟨finish, code, leads⟩ := leads_batches after
        (chunks args.batchSize.toNat (limited args.limit (duplicated rows))) rows
      have looked : step args ⟨rows, .round (10 - remaining)⟩ (.read true) =
          some ⟨rows, nextBatch args (10 - remaining)
            (chunks args.batchSize.toNat (limited args.limit (duplicated rows)))⟩ := by
        rw [step, onRows, if_neg noTarget, batched, if_neg positive.ne', if_pos positive]
        rfl
      exact ⟨finish, code, leads.after looked rfl⟩

theorem leads_counting (positive : 0 < args.batchSize) (rows : List Path) :
    ∃ finish code, Leads args ⟨rows, .counting⟩ ⟨finish, .ended code⟩ := by
  by_cases nothing : duplicated rows = [] ∨ ¬ args.apply
  · have counted : step args ⟨rows, .counting⟩ (.read true) = some ⟨rows, .ended 0⟩ := by
      rw [step, onRows, if_pos nothing]
      rfl
    exact ⟨rows, 0, (Leads.refl _).after counted rfl⟩
  · obtain ⟨finish, code, leads⟩ := leads_rounds positive 10 le_rfl rows
    have counted : step args ⟨rows, .counting⟩ (.read true) = some ⟨rows, nextRound 0⟩ := by
      rw [step, onRows, if_neg nothing]
      rfl
    exact ⟨finish, code, leads.after counted rfl⟩

/-- Without failures and other clients the tool ends, has taken ten rows of a path at most and never its
last one, and its exit code is 0 when no path has two rows any more. -/
theorem applies_settled (positive : 0 < args.batchSize) (applies : args.apply = true)
    (start : List Path) :
    (∃ finish code, Leads args ⟨start, .counting⟩ ⟨finish, .ended code⟩) ∧
      ∀ finish code, Leads args ⟨start, .counting⟩ ⟨finish, .ended code⟩ →
        (∀ path, finish.count path = settled args start path) ∧
          (code = 0 ↔ ∀ path ≠ [], settled args start path ≤ 1) := by
  refine ⟨leads_counting positive start, ?_⟩
  rintro finish code ⟨events, allSucceed, ran⟩
  exact (tool args).run_invariant_of_guarded (fun _ event => event.Succeeds)
    (fun state => Due args start state.rows state.phase)
    (fun _ _ _ succeeds stepped due => due_of_step positive applies succeeds stepped due)
    ((tool args).guarded_of_forall (fun event member _ => allSucceed event member) _) ran rfl

theorem example_applies_settled :
    (∃ finish code, Leads exampleArgs ⟨[pathA, pathB, pathA], .counting⟩ ⟨finish, .ended code⟩) ∧
      ∀ finish code, Leads exampleArgs ⟨[pathA, pathB, pathA], .counting⟩ ⟨finish, .ended code⟩ →
        (∀ path, finish.count path = settled exampleArgs [pathA, pathB, pathA] path) ∧
          (code = 0 ↔ ∀ path ≠ [], settled exampleArgs [pathA, pathB, pathA] path ≤ 1) :=
  applies_settled (by decide) rfl [pathA, pathB, pathA]

end Dedupe

end Rag

end LocalGpuCluster
