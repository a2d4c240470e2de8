/-
This file proves what `parse` leaves in the table of `agent_runner_egress.py`: one entry for each line
with content, no repository and no user twice, and endpoints whose address is written as `IPv4Address`
writes it.
-/

import LocalGpuCluster.Dictionary
import LocalGpuCluster.Egress
import Mathlib.Data.List.Nodup

namespace LocalGpuCluster

namespace Egress

/-- The table line gives this entry. -/
def Gives (row : Text × ℕ) (repo : Text) (entry : Entry) : Prop :=
  ∃ written, Text.words (contentOf row.1) = repo :: entry.user :: written ∧
    written.mapM (endpointOf row.2) = .ok entry.endpoints

/-- The text has a line for the repository with this user. -/
def Owns (content repo user : Text) : Prop :=
  ∃ row ∈ rowsOf content, ∃ written, Text.words (contentOf row.1) = repo :: user :: written

/-- The text lists the endpoint for the repository. -/
def Lists (content repo : Text) (endpoint : Endpoint) : Prop :=
  ∃ row ∈ rowsOf content, ∃ user written,
    Text.words (contentOf row.1) = repo :: user :: written ∧
      ∃ part ∈ written, endpointOf row.2 part = .ok endpoint

/-- What every table that is read has. -/
structure WellFormed (table : Table) : Prop where
  repos : (table.map (·.1)).Nodup
  users : (table.map (·.2.user)).Nodup
  repoPoints : ∀ row ∈ table, ∀ point ∈ row.1, isRepoPoint point = true
  addresses : ∀ row ∈ table, ∀ endpoint ∈ row.2.endpoints, ∃ value, endpoint.1 = Ip.v4Text value

/-! ### Loops that may fail -/

theorem mapM_ok {Item Value Failure : Type} {read : Item → Except Failure Value} {items : List Item}
    {values : List Value} (ok : items.mapM read = .ok values) :
    List.Forall₂ (fun item value => read item = .ok value) items values := by
  induction items generalizing values with
  | nil => cases ok; exact .nil
  | cons item rest inductionHypothesis =>
    rw [List.mapM_cons] at ok
    cases head : read item with
    | error failure => rw [head] at ok; cases ok
    | ok value =>
      cases tail : rest.mapM read with
      | error failure => rw [head, tail] at ok; cases ok
      | ok more =>
        rw [head, tail] at ok
        cases ok
        exact .cons head (inductionHypothesis tail)

/-! ### One line -/

/-- Every way a line goes that is not refused. -/
theorem parseLine_ok {table result : Table} {row : Text × ℕ} (ok : parseLine table row = .ok result) :
    result = table ∧ Text.words (contentOf row.1) = [] ∨
      ∃ repo entry, Gives row repo entry ∧ isRepo repo = true ∧ repo ∉ table.map (·.1) ∧
        entry.user ∉ table.map (·.2.user) ∧ result = table ++ [(repo, entry)] := by
  unfold parseLine at ok
  split at ok
  next empty =>
    cases ok
    rw [empty]
    exact .inl ⟨rfl, rfl⟩
  next =>
    split at ok
    next repo user written parts =>
      split at ok
      · cases ok
      next isRepo =>
        split at ok
        · cases ok
        next =>
          split at ok
          · cases ok
          next newRepo =>
            split at ok
            · cases ok
            next newUser =>
              cases read : written.mapM (endpointOf row.2) with
              | error failure => rw [read] at ok; cases ok
              | ok endpoints =>
                rw [read] at ok
                cases ok
                exact .inr ⟨repo, ⟨user, endpoints⟩, ⟨written, parts, read⟩,
                  (Bool.not_eq_false _).mp isRepo, newRepo, newUser, rfl⟩
    · cases ok

theorem endpointOf_ok {line : ℕ} {part : Text} {endpoint : Endpoint}
    (ok : endpointOf line part = .ok endpoint) : ∃ value, endpoint.1 = Ip.v4Text value := by
  unfold endpointOf at ok
  dsimp only at ok
  split at ok
  · split at ok
    · cases ok
    next value _ =>
      split at ok
      · cases ok
      · split at ok
        · cases ok
          exact ⟨value, rfl⟩
        · cases ok
  · cases ok

theorem not_isSpace_of_mem_words {content word : Text} {point : CodePoint}
    (isWord : word ∈ Text.words content) (member : point ∈ word) : point.isSpace = false := by
  have inSplit := (List.mem_filter.mp isWord).1
  have each : ∀ part ∈ content.splitOnP fun point => point.isSpace,
      ∀ other ∈ part, other.isSpace = false := by
    clear isWord member inSplit
    induction content with
    | nil =>
      rw [List.splitOnP_nil]
      intro part isPart other inPart
      rw [List.mem_singleton.mp isPart] at inPart
      cases inPart
    | cons head rest inductionHypothesis =>
      rw [List.splitOnP_cons_eq_if_modifyHead]
      split
      · intro part isPart
        obtain rfl | isPart := List.mem_cons.mp isPart
        · intro other inPart
          cases inPart
        · exact inductionHypothesis part isPart
      next noSpace =>
        cases split : rest.splitOnP fun point => point.isSpace with
        | nil => exact absurd split (List.splitOnP_ne_nil _ _)
        | cons first more =>
          rw [split] at inductionHypothesis
          rw [List.modifyHead_cons]
          intro part isPart other inPart
          obtain rfl | isPart := List.mem_cons.mp isPart
          · obtain rfl | inFirst := List.mem_cons.mp inPart
            · exact Bool.eq_false_iff.mpr noSpace
            · exact inductionHypothesis first List.mem_cons_self other inFirst
          · exact inductionHypothesis part (List.mem_cons_of_mem _ isPart) other inPart
  exact each word inSplit point member

/-- A word is all before the dollar sign. -/
theorem beforeDollar_of_mem_words {content word : Text} (isWord : word ∈ Text.words content) :
    beforeDollar word = word := by
  unfold beforeDollar
  rw [if_neg]
  intro lineFeed
  have space := not_isSpace_of_mem_words isWord (List.mem_of_getLast? lineFeed)
  revert space
  decide

theorem WellFormed.parseLine {table result : Table} {row : Text × ℕ} (wellFormed : WellFormed table)
    (ok : parseLine table row = .ok result) : WellFormed result := by
  obtain ⟨rfl, _⟩ | ⟨repo, entry, ⟨written, parts, read⟩, isRepo, newRepo, newUser, rfl⟩ :=
    parseLine_ok ok
  · exact wellFormed
  have points : ∀ point ∈ repo, isRepoPoint point = true := by
    have isWord : repo ∈ Text.words (contentOf row.1) := parts ▸ List.mem_cons_self
    unfold Egress.isRepo at isRepo
    rw [beforeDollar_of_mem_words isWord, Bool.and_eq_true, List.all_eq_true] at isRepo
    exact isRepo.2
  have written : ∀ endpoint ∈ entry.endpoints, ∃ value, endpoint.1 = Ip.v4Text value :=
    fun endpoint member => by
      obtain ⟨part, _, ok⟩ := Matching.exists_left (mapM_ok read) member
      exact endpointOf_ok ok
  constructor
  · rw [List.map_append, List.map_singleton, ← List.concat_eq_append]
    exact wellFormed.repos.concat newRepo
  · rw [List.map_append, List.map_singleton, ← List.concat_eq_append]
    exact wellFormed.users.concat newUser
  · rintro other member
    obtain inTable | here := List.mem_append.mp member
    · exact wellFormed.repoPoints other inTable
    · rw [List.mem_singleton.mp here]
      exact points
  · rintro other member
    obtain inTable | here := List.mem_append.mp member
    · exact wellFormed.addresses other inTable
    · rw [List.mem_singleton.mp here]
      exact written

/-- A line gives one entry at most. -/
theorem Gives.unique {row : Text × ℕ} {repo other : Text} {entry otherEntry : Entry}
    (gives : Gives row repo entry) (also : Gives row other otherEntry) :
    other = repo ∧ otherEntry = entry := by
  obtain ⟨written, parts, read⟩ := gives
  obtain ⟨otherWritten, otherParts, otherRead⟩ := also
  rw [parts] at otherParts
  obtain ⟨rfl, sameUser, rfl⟩ : repo = other ∧ entry.user = otherEntry.user ∧
    written = otherWritten := by simpa using otherParts
  rw [read] at otherRead
  cases entry
  cases otherEntry
  cases otherRead
  cases sameUser
  exact ⟨rfl, rfl⟩

/-! ### All lines -/

/-- The loop of `parse` from a table on: it keeps the table well formed, adds what the lines give,
and passes over the lines without content only. -/
theorem foldlM_parseLine {rows : List (Text × ℕ)} {table result : Table}
    (ok : rows.foldlM parseLine table = .ok result) (wellFormed : WellFormed table) :
    WellFormed result ∧
      (∀ repo entry,
        (repo, entry) ∈ result ↔ (repo, entry) ∈ table ∨ ∃ row ∈ rows, Gives row repo entry) ∧
      ∀ row ∈ rows, Text.words (contentOf row.1) = [] ∨ ∃ repo entry, Gives row repo entry := by
  induction rows generalizing table with
  | nil =>
    cases ok
    exact ⟨wellFormed, fun _ _ => by simp, fun _ member => absurd member List.not_mem_nil⟩
  | cons row rest inductionHypothesis =>
    rw [List.foldlM_cons] at ok
    cases first : parseLine table row with
    | error failure => rw [first] at ok; cases ok
    | ok next =>
      rw [first] at ok
      obtain ⟨after, members, given⟩ := inductionHypothesis ok (wellFormed.parseLine first)
      simp only [List.mem_cons, exists_eq_or_imp, forall_eq_or_imp]
      obtain ⟨rfl, none⟩ | ⟨newRepo, newEntry, gives, _, _, _, rfl⟩ := parseLine_ok first
      · refine ⟨after, fun repo entry => ?_, .inl none, given⟩
        have gone : ¬Gives row repo entry := fun ⟨written, parts, _⟩ => by
          rw [none] at parts
          cases parts
        rw [members]
        simp only [gone, false_or]
      · refine ⟨after, fun repo entry => ?_, .inr ⟨newRepo, newEntry, gives⟩, given⟩
        have only : Gives row repo entry ↔ (repo, entry) = (newRepo, newEntry) := by
          constructor
          · intro also
            obtain ⟨rfl, rfl⟩ := gives.unique also
            rfl
          · rintro ⟨⟩
            exact gives
        rw [members, only, List.mem_append, List.mem_singleton, or_assoc]

theorem wellFormed_nil : WellFormed [] :=
  ⟨List.nodup_nil, List.nodup_nil, fun _ member => absurd member List.not_mem_nil,
    fun _ member => absurd member List.not_mem_nil⟩

section Parsed

variable {content : Text} {table : Table} (parsed : parse content = .ok table)

include parsed

theorem wellFormed_of_parse : WellFormed table := (foldlM_parseLine parsed wellFormed_nil).1

theorem mem_of_parse (repo : Text) (entry : Entry) :
    (repo, entry) ∈ table ↔ ∃ row ∈ rowsOf content, Gives row repo entry := by
  rw [(foldlM_parseLine parsed wellFormed_nil).2.1]
  simp only [List.not_mem_nil, false_or]

/-- A line that names a repository and a user gives their entry. -/
theorem gives_of_parse {row : Text × ℕ} (member : row ∈ rowsOf content) {repo user : Text}
    {written : List Text} (parts : Text.words (contentOf row.1) = repo :: user :: written) :
    ∃ entry, (repo, entry) ∈ table ∧ entry.user = user ∧
      written.mapM (endpointOf row.2) = .ok entry.endpoints := by
  obtain none | ⟨other, entry, gives⟩ := (foldlM_parseLine parsed wellFormed_nil).2.2 row member
  · rw [parts] at none
    cases none
  have inTable := (mem_of_parse parsed other entry).mpr ⟨row, member, gives⟩
  obtain ⟨otherWritten, otherParts, read⟩ := gives
  rw [parts] at otherParts
  obtain ⟨rfl, rfl, rfl⟩ : repo = other ∧ user = entry.user ∧ written = otherWritten := by
    simpa using otherParts
  exact ⟨entry, inTable, rfl, read⟩

theorem owns_iff (repo user : Text) :
    Owns content repo user ↔ ∃ entry, (repo, entry) ∈ table ∧ entry.user = user := by
  constructor
  · rintro ⟨row, member, written, parts⟩
    obtain ⟨entry, inTable, same, _⟩ := gives_of_parse parsed member parts
    exact ⟨entry, inTable, same⟩
  · rintro ⟨entry, inTable, rfl⟩
    obtain ⟨row, member, written, parts, _⟩ := (mem_of_parse parsed repo entry).mp inTable
    exact ⟨row, member, written, parts⟩

theorem lists_iff (repo : Text) (endpoint : Endpoint) :
    Lists content repo endpoint ↔ ∃ entry, (repo, entry) ∈ table ∧ endpoint ∈ entry.endpoints := by
  constructor
  · rintro ⟨row, member, user, written, parts, part, isPart, ok⟩
    obtain ⟨entry, inTable, _, read⟩ := gives_of_parse parsed member parts
    obtain ⟨other, isEndpoint, same⟩ := Matching.exists_right (mapM_ok read) isPart
    rw [ok] at same
    cases same
    exact ⟨entry, inTable, isEndpoint⟩
  · rintro ⟨entry, inTable, isEndpoint⟩
    obtain ⟨row, member, written, parts, read⟩ := (mem_of_parse parsed repo entry).mp inTable
    obtain ⟨part, isPart, ok⟩ := Matching.exists_left (mapM_ok read) isEndpoint
    exact ⟨row, member, entry.user, written, parts, part, isPart, ok⟩

end Parsed

end Egress

end LocalGpuCluster
