/-
This file holds what becomes of records that are written one after another, each as its key, a mark
and its contents, with nothing after the contents. Keys without the mark can be read back, but the
contents of a record and the records after it cannot be told apart: two lists of records are written
alike exactly when they are the same, or when the contents of one record take in the beginning of
what comes after it in the other list.
-/

import Mathlib.Data.List.Basic

namespace LocalGpuCluster

namespace Records

variable {Symbol : Type} {mark : Symbol}

/-- A key with its contents. -/
abbrev Record (Symbol : Type) := List Symbol × List Symbol

def write (mark : Symbol) (record : Record Symbol) : List Symbol := record.1 ++ mark :: record.2

def writeAll (mark : Symbol) (records : List (Record Symbol)) : List Symbol :=
  records.flatMap (write mark)

/-- No key holds the mark. -/
def Marked (mark : Symbol) (records : List (Record Symbol)) : Prop :=
  ∀ record ∈ records, mark ∉ record.1

/-- Up to a record the lists are the same; there the second one has more contents, and these and the
records after them are written like the records that the first one has left. -/
def Spills (mark : Symbol) (first second : List (Record Symbol)) : Prop :=
  ∃ before key contents extra after others, extra ≠ [] ∧
    first = before ++ (key, contents) :: after ∧
    second = before ++ (key, contents ++ extra) :: others ∧
    writeAll mark after = extra ++ writeAll mark others

theorem writeAll_cons (record : Record Symbol) (rest : List (Record Symbol)) :
    writeAll mark (record :: rest) = record.1 ++ mark :: (record.2 ++ writeAll mark rest) := by
  rw [writeAll, List.flatMap_cons, write, List.append_assoc]
  rfl

theorem writeAll_append (first second : List (Record Symbol)) :
    writeAll mark (first ++ second) = writeAll mark first ++ writeAll mark second :=
  List.flatMap_append

theorem writeAll_ne_nil {record : Record Symbol} {rest : List (Record Symbol)} :
    writeAll mark (record :: rest) ≠ [] := by
  rw [writeAll_cons]
  exact List.append_ne_nil_of_right_ne_nil _ (List.cons_ne_nil _ _)

theorem Spills.writeAll_eq {first second : List (Record Symbol)} (spills : Spills mark first second) :
    writeAll mark first = writeAll mark second := by
  obtain ⟨before, key, contents, extra, after, others, _, rfl, rfl, same⟩ := spills
  rw [writeAll_append, writeAll_append, writeAll_cons, writeAll_cons, same, List.append_assoc]

theorem Spills.cons {first second : List (Record Symbol)} (spills : Spills mark first second)
    (record : Record Symbol) : Spills mark (record :: first) (record :: second) := by
  obtain ⟨before, key, contents, extra, after, others, more, rfl, rfl, same⟩ := spills
  exact ⟨record :: before, key, contents, extra, after, others, more, rfl, rfl, same⟩

/-- Where one record has more contents than the other, these are what comes after it there. -/
theorem spills_of_append_eq {key contents extra : List Symbol} {after others : List (Record Symbol)}
    (more : extra ≠ []) (same : writeAll mark after = extra ++ writeAll mark others) :
    Spills mark ((key, contents) :: after) ((key, contents ++ extra) :: others) :=
  ⟨[], key, contents, extra, after, others, more, rfl, rfl, same⟩

/-- The first mark ends the key. -/
theorem eq_of_append_mark {key otherKey contents others : List Symbol} (free : mark ∉ key)
    (otherFree : mark ∉ otherKey) (same : key ++ mark :: contents = otherKey ++ mark :: others) :
    key = otherKey ∧ contents = others := by
  obtain ⟨between, rfl, rest⟩ | ⟨between, rfl, rest⟩ := List.append_eq_append_iff.mp same
  · cases between with
    | nil => exact ⟨(List.append_nil key).symm, (List.cons.inj rest).2⟩
    | cons symbol between =>
      obtain ⟨rfl, _⟩ := List.cons.inj rest
      exact absurd (List.mem_append_right key List.mem_cons_self) otherFree
  · cases between with
    | nil => exact ⟨List.append_nil otherKey, (List.cons.inj rest).2.symm⟩
    | cons symbol between =>
      obtain ⟨rfl, _⟩ := List.cons.inj rest
      exact absurd (List.mem_append_right otherKey List.mem_cons_self) free

/-- Two lists of records are written alike exactly when they are the same or one spills into the
other. -/
theorem writeAll_eq_iff {first second : List (Record Symbol)} (firstMarked : Marked mark first)
    (secondMarked : Marked mark second) :
    writeAll mark first = writeAll mark second ↔
      first = second ∨ Spills mark first second ∨ Spills mark second first := by
  constructor
  · intro same
    induction first generalizing second with
    | nil =>
      cases second with
      | nil => exact Or.inl rfl
      | cons record rest => exact absurd same.symm writeAll_ne_nil
    | cons record rest inductionHypothesis =>
      cases second with
      | nil => exact absurd same writeAll_ne_nil
      | cons other others =>
        obtain ⟨free, restMarked⟩ := List.forall_mem_cons.mp firstMarked
        obtain ⟨otherFree, othersMarked⟩ := List.forall_mem_cons.mp secondMarked
        obtain ⟨key, contents⟩ := record
        obtain ⟨otherKey, otherContents⟩ := other
        rw [writeAll_cons, writeAll_cons] at same
        obtain ⟨rfl, same⟩ := eq_of_append_mark free otherFree same
        obtain ⟨extra, isMore, rests⟩ | ⟨extra, isMore, rests⟩ := List.append_eq_append_iff.mp same
        · by_cases more : extra = []
          · subst more
            rw [show otherContents = contents from isMore.trans (List.append_nil contents)]
            obtain rfl | spills | spills := inductionHypothesis restMarked othersMarked rests
            · exact Or.inl rfl
            · exact Or.inr (Or.inl (spills.cons _))
            · exact Or.inr (Or.inr (spills.cons _))
          · rw [show otherContents = contents ++ extra from isMore]
            exact Or.inr (Or.inl (spills_of_append_eq more rests))
        · by_cases more : extra = []
          · subst more
            rw [show contents = otherContents from isMore.trans (List.append_nil otherContents)]
            obtain rfl | spills | spills := inductionHypothesis restMarked othersMarked rests.symm
            · exact Or.inl rfl
            · exact Or.inr (Or.inl (spills.cons _))
            · exact Or.inr (Or.inr (spills.cons _))
          · rw [show contents = otherContents ++ extra from isMore]
            exact Or.inr (Or.inr (spills_of_append_eq more rests))
  · rintro (rfl | spills | spills)
    · rfl
    · exact spills.writeAll_eq
    · exact spills.writeAll_eq.symm

end Records

end LocalGpuCluster
