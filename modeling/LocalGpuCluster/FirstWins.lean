/-
This file is about rewriting a list of lines of which some stand for a key. The first line of a key
is written anew, the later ones are dropped, and every other line stays where it is. Keys without a
line are appended by whoever calls it.
-/

import Mathlib.Data.List.Basic
import Mathlib.Data.List.Nodup

namespace LocalGpuCluster

namespace FirstWins

variable {Line Key : Type} [DecidableEq Key]

/-- The lines rewritten, after lines that wrote some keys, and the keys written at the end. -/
def rewrite (keyOf : Line → Option Key) (fresh : Key → Line) (written : List Key) :
    List Line → List Line × List Key
  | [] => ([], written)
  | line :: rest =>
      match keyOf line with
      | none =>
          let after := rewrite keyOf fresh written rest
          (line :: after.1, after.2)
      | some key =>
          if key ∈ written then rewrite keyOf fresh written rest
          else
            let after := rewrite keyOf fresh (key :: written) rest
            (fresh key :: after.1, after.2)

variable {keyOf : Line → Option Key} {fresh : Key → Line} {written : List Key} {line : Line}

theorem rewrite_other (other : keyOf line = none) (rest : List Line) :
    rewrite keyOf fresh written (line :: rest) =
      (line :: (rewrite keyOf fresh written rest).1, (rewrite keyOf fresh written rest).2) := by
  rw [rewrite, other]

theorem rewrite_again {key : Key} (isKey : keyOf line = some key) (again : key ∈ written)
    (rest : List Line) :
    rewrite keyOf fresh written (line :: rest) = rewrite keyOf fresh written rest := by
  rw [rewrite, isKey]
  exact if_pos again

theorem rewrite_first {key : Key} (isKey : keyOf line = some key) (first : key ∉ written)
    (rest : List Line) :
    rewrite keyOf fresh written (line :: rest) =
      (fresh key :: (rewrite keyOf fresh (key :: written) rest).1,
        (rewrite keyOf fresh (key :: written) rest).2) := by
  rw [rewrite, isKey]
  exact if_neg first

theorem rewrite_append (lines others : List Line) :
    rewrite keyOf fresh written (lines ++ others) =
      ((rewrite keyOf fresh written lines).1 ++
          (rewrite keyOf fresh (rewrite keyOf fresh written lines).2 others).1,
        (rewrite keyOf fresh (rewrite keyOf fresh written lines).2 others).2) := by
  induction lines generalizing written with
  | nil => rfl
  | cons line rest inductionHypothesis =>
    rw [List.cons_append]
    cases isKey : keyOf line with
    | none => rw [rewrite_other isKey, rewrite_other isKey, inductionHypothesis]; rfl
    | some key =>
      by_cases again : key ∈ written
      · rw [rewrite_again isKey again, rewrite_again isKey again, inductionHypothesis]
      · rw [rewrite_first isKey again, rewrite_first isKey again, inductionHypothesis]; rfl

/-- Rewriting commutes with a change of all lines that leaves their keys. -/
theorem rewrite_map {Other : Type} {otherKeyOf : Other → Option Key} {otherFresh : Key → Other}
    (change : Line → Other) (keys : ∀ line, otherKeyOf (change line) = keyOf line)
    (freshes : ∀ key, otherFresh key = change (fresh key)) (lines : List Line) :
    rewrite otherKeyOf otherFresh written (lines.map change) =
      ((rewrite keyOf fresh written lines).1.map change, (rewrite keyOf fresh written lines).2) := by
  induction lines generalizing written with
  | nil => rfl
  | cons line rest inductionHypothesis =>
    rw [List.map_cons]
    cases isKey : keyOf line with
    | none =>
      rw [rewrite_other ((keys line).trans isKey), rewrite_other isKey, inductionHypothesis]
      rfl
    | some key =>
      by_cases again : key ∈ written
      · rw [rewrite_again ((keys line).trans isKey) again, rewrite_again isKey again,
          inductionHypothesis]
      · rw [rewrite_first ((keys line).trans isKey) again, rewrite_first isKey again,
          inductionHypothesis, freshes]
        rfl

/-- The keys written at the end are those written before and those that lines stand for. -/
theorem mem_written {key : Key} (lines : List Line) :
    key ∈ (rewrite keyOf fresh written lines).2 ↔
      key ∈ written ∨ ∃ line ∈ lines, keyOf line = some key := by
  induction lines generalizing written with
  | nil => simp [rewrite]
  | cons line rest inductionHypothesis =>
    cases isKey : keyOf line with
    | none => simp [rewrite_other isKey, inductionHypothesis, isKey]
    | some first =>
      by_cases again : first ∈ written
      · rw [rewrite_again isKey again, inductionHypothesis]
        simp only [List.exists_mem_cons_iff, isKey, Option.some.injEq]
        constructor
        · rintro (before | later)
          · exact .inl before
          · exact .inr (.inr later)
        · rintro (before | rfl | later)
          · exact .inl before
          · exact .inl again
          · exact .inr later
      · rw [rewrite_first isKey again, inductionHypothesis]
        rw [List.exists_mem_cons_iff, isKey, Option.some.injEq, List.mem_cons]
        constructor
        · rintro ((rfl | before) | later)
          · exact .inr (.inl rfl)
          · exact .inl before
          · exact .inr (.inr later)
        · rintro (before | rfl | later)
          · exact .inl (.inr before)
          · exact .inl (.inl rfl)
          · exact .inr later

/-- The lines that stand for no key stay, in their order. -/
theorem filter_other (keeps : ∀ key, (keyOf (fresh key)).isSome) (lines : List Line) :
    (rewrite keyOf fresh written lines).1.filter (fun line => (keyOf line).isNone) =
      lines.filter fun line => (keyOf line).isNone := by
  induction lines generalizing written with
  | nil => rfl
  | cons line rest inductionHypothesis =>
    cases isKey : keyOf line with
    | none => simp [rewrite_other isKey, inductionHypothesis, isKey]
    | some key =>
      by_cases again : key ∈ written
      · simp [rewrite_again isKey again, inductionHypothesis, isKey]
      · have isSome := keeps key
        rw [rewrite_first isKey again, List.filter_cons, inductionHypothesis,
          List.filter_cons, isKey]
        simp [Option.isNone_iff_eq_none, Option.isSome_iff_ne_none.mp isSome]

/-- A key has one line then, the fresh one, unless it was written before or has no line. -/
theorem filter_key (keeps : ∀ key, keyOf (fresh key) = some key) (key : Key) (lines : List Line) :
    (rewrite keyOf fresh written lines).1.filter (fun line => keyOf line = some key) =
      if key ∉ written ∧ ∃ line ∈ lines, keyOf line = some key then [fresh key] else [] := by
  induction lines generalizing written with
  | nil => simp [rewrite]
  | cons line rest inductionHypothesis =>
    cases isKey : keyOf line with
    | none => simp [rewrite_other isKey, inductionHypothesis, isKey]
    | some first =>
      by_cases again : first ∈ written
      · rw [rewrite_again isKey again, inductionHypothesis]
        refine if_congr (and_congr_right fun notYet => ?_) rfl rfl
        have differs : first ≠ key := fun same => notYet (same ▸ again)
        simp [isKey, differs]
      · rw [rewrite_first isKey again, List.filter_cons, inductionHypothesis]
        rw [keeps]
        by_cases same : first = key
        · subst same
          simp [isKey, again]
        · simp [isKey, same, Ne.symm same]

/-- Lines that already are as the rewriting leaves them stay as they are. -/
theorem rewrite_eq_self {lines : List Line}
    (freshOnly : ∀ line ∈ lines, ∀ key, keyOf line = some key → line = fresh key)
    (once : (lines.filterMap keyOf).Nodup)
    (unwritten : ∀ key ∈ lines.filterMap keyOf, key ∉ written) :
    (rewrite keyOf fresh written lines).1 = lines := by
  induction lines generalizing written with
  | nil => rfl
  | cons line rest inductionHypothesis =>
    have restFresh : ∀ other ∈ rest, ∀ key, keyOf other = some key → other = fresh key :=
      fun other member => freshOnly other (List.mem_cons_of_mem _ member)
    cases isKey : keyOf line with
    | none =>
      rw [List.filterMap_cons_none isKey] at once unwritten
      rw [rewrite_other isKey, inductionHypothesis restFresh once unwritten]
    | some key =>
      rw [List.filterMap_cons_some isKey] at once unwritten
      have first := unwritten key List.mem_cons_self
      rw [rewrite_first isKey first, ← freshOnly line List.mem_cons_self key isKey,
        inductionHypothesis restFresh (List.nodup_cons.mp once).2]
      intro other member isWritten
      obtain rfl | before := List.mem_cons.mp isWritten
      · exact (List.nodup_cons.mp once).1 member
      · exact unwritten other (List.mem_cons_of_mem _ member) before

/-- The lines written for keys are fresh. -/
theorem eq_fresh_of_mem (keeps : ∀ key, keyOf (fresh key) = some key) {lines : List Line} {key : Key}
    (member : line ∈ (rewrite keyOf fresh written lines).1) (isKey : keyOf line = some key) :
    line = fresh key := by
  have found : line ∈ (rewrite keyOf fresh written lines).1.filter
      (fun line => keyOf line = some key) :=
    List.mem_filter.mpr ⟨member, decide_eq_true isKey⟩
  rw [filter_key keeps] at found
  split at found
  · exact List.mem_singleton.mp found
  · exact absurd found List.not_mem_nil

/-- What is left was there before, or was written for a key. -/
theorem mem_of_mem_rewrite (keeps : ∀ key, keyOf (fresh key) = some key) {lines : List Line}
    (member : line ∈ (rewrite keyOf fresh written lines).1) :
    line ∈ lines ∨ ∃ key, line = fresh key := by
  cases isKey : keyOf line with
  | some key => exact .inr ⟨key, eq_fresh_of_mem keeps member isKey⟩
  | none =>
    have found : line ∈ (rewrite keyOf fresh written lines).1.filter
        fun line => (keyOf line).isNone :=
      List.mem_filter.mpr ⟨member, by rw [isKey]; rfl⟩
    rw [filter_other fun key => by rw [keeps]; rfl] at found
    exact .inl (List.mem_filter.mp found).1

/-- Lines of which each key has one at most have distinct keys. -/
theorem nodup_filterMap {lines : List Line}
    (once : ∀ key, (lines.filter fun line => keyOf line = some key).length ≤ 1) :
    (lines.filterMap keyOf).Nodup := by
  refine List.nodup_iff_count_le_one.mpr fun key => ?_
  have same : (fun line => keyOf line == some key) = fun line => decide (keyOf line = some key) := by
    funext line
    rw [Bool.eq_iff_iff, beq_iff_eq, decide_eq_true_eq]
  rw [List.count_filterMap, List.countP_eq_length_filter, same]
  exact once key

end FirstWins

end LocalGpuCluster
