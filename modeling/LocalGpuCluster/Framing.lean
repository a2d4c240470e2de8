/-
This file holds readers that get their input in pieces. A decoder makes symbols of bytes, one byte
after the other; a buffer keeps what has come of a record that is not whole yet, and each record is
handled as soon as it is. Where the pieces are cut does not matter: the symbols, the records, and
what is left of either at the end are those of the whole input.
-/

import Mathlib.Data.List.Basic

namespace LocalGpuCluster

namespace Framing

variable {Symbol State : Type}

/-! ### Decoding byte by byte -/

/-- An incremental decoder: what it makes of a byte, and what it still has to give at the end. -/
structure Decoder (Symbol : Type) where
  State : Type
  start : State
  decode : UInt8 → State → List Symbol × State
  flush : State → List Symbol

namespace Decoder

variable (decoder : Decoder Symbol)

/-- What it makes of a piece. -/
def run (state : decoder.State) : List UInt8 → List Symbol × decoder.State
  | [] => ([], state)
  | byte :: rest =>
      let first := decoder.decode byte state
      let later := run first.2 rest
      (first.1 ++ later.1, later.2)

/-- What it makes of piece after piece. -/
def pieces (state : decoder.State) : List (List UInt8) → List (List Symbol) × decoder.State
  | [] => ([], state)
  | chunk :: rest =>
      let first := decoder.run state chunk
      let later := pieces first.2 rest
      (first.1 :: later.1, later.2)

theorem run_append (state : decoder.State) (first second : List UInt8) :
    decoder.run state (first ++ second) =
      ((decoder.run state first).1 ++ (decoder.run (decoder.run state first).2 second).1,
        (decoder.run (decoder.run state first).2 second).2) := by
  induction first generalizing state with
  | nil => rfl
  | cons byte rest inductionHypothesis =>
    simp only [List.cons_append, run, inductionHypothesis, List.append_assoc]

/-- Joined, the pieces are what it makes of the whole. -/
theorem pieces_flatten (state : decoder.State) (chunks : List (List UInt8)) :
    ((decoder.pieces state chunks).1.flatten, (decoder.pieces state chunks).2) =
      decoder.run state chunks.flatten := by
  induction chunks generalizing state with
  | nil => rfl
  | cons chunk rest inductionHypothesis =>
    rw [List.flatten_cons, run_append, ← inductionHypothesis]
    rfl

end Decoder

/-! ### Cutting records off a buffer -/

/-- Takes the first record off a buffer, where a whole one is there. -/
abbrev Cutter (Symbol : Type) := List Symbol → Option (List Symbol × List Symbol)

/-- A record that is whole is so whatever follows, and taking it leaves less. -/
structure Cutter.Lawful (cut : Cutter Symbol) : Prop where
  shrinks : ∀ {buffer record rest}, cut buffer = some (record, rest) → rest.length < buffer.length
  goesOn : ∀ {buffer record rest} (more : List Symbol),
    cut buffer = some (record, rest) → cut (buffer ++ more) = some (record, rest ++ more)

/-- Cuts a buffer at the first place where the separator stands. -/
def cutAt [DecidableEq Symbol] (separator : List Symbol) : Cutter Symbol
  | [] => if separator = [] then some ([], []) else none
  | symbol :: rest =>
      if separator.isPrefixOf (symbol :: rest) then
        some ([], (symbol :: rest).drop separator.length)
      else (cutAt separator rest).map fun found => (symbol :: found.1, found.2)

/-- Cutting takes the separator out, and nothing else. -/
theorem append_of_cutAt [DecidableEq Symbol] {separator buffer record rest : List Symbol}
    (found : cutAt separator buffer = some (record, rest)) :
    record ++ separator ++ rest = buffer := by
  induction buffer generalizing record with
  | nil =>
    rw [cutAt] at found
    split at found
    · rename_i empty
      cases found
      rw [empty]
      rfl
    · cases found
  | cons symbol later inductionHypothesis =>
    rw [cutAt] at found
    split at found
    · rename_i here
      cases found
      obtain ⟨after, split⟩ := List.isPrefixOf_iff_prefix.mp here
      rw [← split, List.nil_append, List.drop_left]
    · obtain ⟨⟨front, back⟩, cut, same⟩ := Option.map_eq_some_iff.mp found
      cases same
      rw [List.cons_append, List.cons_append, inductionHypothesis cut]

theorem cutAt_lawful [DecidableEq Symbol] {separator : List Symbol} (proper : separator ≠ []) :
    Cutter.Lawful (cutAt separator) where
  shrinks found := by
    have length := congrArg List.length (append_of_cutAt found)
    have positive := List.length_pos_of_ne_nil proper
    rw [List.length_append, List.length_append] at length
    omega
  goesOn {buffer record rest} more found := by
    induction buffer generalizing record with
    | nil => rw [cutAt, if_neg proper] at found; cases found
    | cons symbol later inductionHypothesis =>
      -- The separator found stands later, so the buffer is long enough to show that none stands here.
      have enough : separator.length ≤ (symbol :: later).length := by
        rw [← append_of_cutAt found, List.length_append, List.length_append]
        omega
      have same : separator.isPrefixOf (symbol :: later ++ more) =
          separator.isPrefixOf (symbol :: later) := by
        rw [Bool.eq_iff_iff, List.isPrefixOf_iff_prefix, List.isPrefixOf_iff_prefix]
        exact ⟨fun within => List.prefix_of_prefix_length_le within (List.prefix_append _ _) enough,
          fun within => within.trans (List.prefix_append _ _)⟩
      rw [cutAt] at found
      rw [List.cons_append, cutAt, ← List.cons_append, same]
      split at found
      · rename_i here
        cases found
        rw [if_pos here, List.drop_append_of_le_length enough]
      · rename_i elsewhere
        obtain ⟨⟨front, back⟩, cut, equal⟩ := Option.map_eq_some_iff.mp found
        cases equal
        rw [if_neg elsewhere, inductionHypothesis cut]
        rfl

/-- A record in which the separator cannot begin is cut off at its end. -/
theorem cutAt_append [DecidableEq Symbol] {first : Symbol} {record : List Symbol}
    (absent : first ∉ record) (separator rest : List Symbol) :
    cutAt (first :: separator) (record ++ (first :: separator) ++ rest) = some (record, rest) := by
  induction record with
  | nil =>
    have here : (first :: separator).isPrefixOf (first :: separator ++ rest) = true :=
      List.isPrefixOf_iff_prefix.mpr (List.prefix_append _ _)
    have dropped : (first :: separator ++ rest).drop (first :: separator).length = rest :=
      List.drop_left
    rw [List.nil_append, List.cons_append, cutAt, ← List.cons_append, if_pos here, dropped]
  | cons symbol record inductionHypothesis =>
    have elsewhere : ¬ (first :: separator).isPrefixOf
        (symbol :: (record ++ (first :: separator) ++ rest)) = true := by
      intro within
      obtain ⟨after, same⟩ := List.isPrefixOf_iff_prefix.mp within
      exact absent ((List.cons.inj same).1 ▸ List.mem_cons_self)
    rw [List.cons_append, List.cons_append, cutAt, if_neg elsewhere,
      inductionHypothesis fun member => absent (List.mem_cons_of_mem _ member)]
    rfl

/-- The records of a buffer, and what stays in it, with a bound on how many are taken. -/
def drainFrom (cut : Cutter Symbol) : ℕ → List Symbol → List (List Symbol) × List Symbol
  | 0, buffer => ([], buffer)
  | bound + 1, buffer =>
      match cut buffer with
      | none => ([], buffer)
      | some found =>
          let later := drainFrom cut bound found.2
          (found.1 :: later.1, later.2)

/-- There are no more records than symbols. -/
def drain (cut : Cutter Symbol) (buffer : List Symbol) : List (List Symbol) × List Symbol :=
  drainFrom cut buffer.length buffer

section Drain

variable {cut : Cutter Symbol} (lawful : cut.Lawful)
include lawful

theorem drainFrom_enough {bound : ℕ} {buffer : List Symbol} (enough : buffer.length ≤ bound) :
    drainFrom cut bound buffer = drain cut buffer := by
  have general : ∀ first second (buffer : List Symbol), buffer.length ≤ first →
      buffer.length ≤ second → drainFrom cut first buffer = drainFrom cut second buffer := by
    intro first
    induction first with
    | zero =>
      intro second buffer small _
      have empty : cut buffer = none := by
        cases found : cut buffer with
        | none => rfl
        | some split => exact absurd (lawful.shrinks found) (by omega)
      cases second with
      | zero => rfl
      | succ second => rw [drainFrom, drainFrom, empty]
    | succ first inductionHypothesis =>
      intro second buffer small large
      cases found : cut buffer with
      | none => cases second <;> simp only [drainFrom, found]
      | some split =>
        have shorter : split.2.length < buffer.length := lawful.shrinks found
        obtain ⟨second, rfl⟩ : ∃ smaller, second = smaller + 1 := ⟨second - 1, by omega⟩
        simp only [drainFrom, found]
        rw [inductionHypothesis second split.2 (by omega) (by omega)]
  exact general bound buffer.length buffer enough (Nat.le_refl _)

theorem drain_of_none {buffer : List Symbol} (unfinished : cut buffer = none) :
    drain cut buffer = ([], buffer) := by
  rw [← drainFrom_enough lawful (Nat.le_succ _), drainFrom, unfinished]

theorem drain_of_some {buffer record rest : List Symbol}
    (found : cut buffer = some (record, rest)) :
    drain cut buffer = (record :: (drain cut rest).1, (drain cut rest).2) := by
  have shorter := lawful.shrinks found
  rw [← drainFrom_enough lawful (Nat.le_succ _), drainFrom, found]
  dsimp only
  rw [drainFrom_enough lawful (Nat.le_of_lt shorter)]

/-- What is left has no whole record in it. -/
theorem cut_drain (buffer : List Symbol) : cut (drain cut buffer).2 = none := by
  induction length : buffer.length using Nat.strongRecOn generalizing buffer with
  | ind size inductionHypothesis =>
    cases found : cut buffer with
    | none => rw [drain_of_none lawful found, found]
    | some split =>
      rw [drain_of_some lawful found]
      exact inductionHypothesis _ (length ▸ lawful.shrinks found) split.2 rfl

/-- Draining again once more has come is draining everything. -/
theorem drain_append (buffer more : List Symbol) :
    drain cut (buffer ++ more) =
      ((drain cut buffer).1 ++ (drain cut ((drain cut buffer).2 ++ more)).1,
        (drain cut ((drain cut buffer).2 ++ more)).2) := by
  induction length : buffer.length using Nat.strongRecOn generalizing buffer with
  | ind size inductionHypothesis =>
    cases found : cut buffer with
    | none => rw [drain_of_none lawful found]; rfl
    | some split =>
      have shorter : split.2.length < size := length ▸ lawful.shrinks found
      rw [drain_of_some lawful found, drain_of_some lawful (lawful.goesOn more found),
        inductionHypothesis _ shorter split.2 rfl]
      rfl

end Drain

/-! ### Handling the records as they come -/

/-- A reader between two pieces: what has come of the next record, and what it made of the others. -/
structure Reader (Symbol State : Type) where
  buffer : List Symbol
  state : State

/-- The next piece: each record that is whole now is handled. -/
def Reader.feed (cut : Cutter Symbol) (handle : State → List Symbol → State)
    (reader : Reader Symbol State) (piece : List Symbol) : Reader Symbol State :=
  let drained := drain cut (reader.buffer ++ piece)
  ⟨drained.2, drained.1.foldl handle reader.state⟩

theorem feed_append {cut : Cutter Symbol} (lawful : cut.Lawful)
    (handle : State → List Symbol → State) (reader : Reader Symbol State)
    (first second : List Symbol) :
    (reader.feed cut handle first).feed cut handle second =
      reader.feed cut handle (first ++ second) := by
  unfold Reader.feed
  dsimp only
  rw [← List.append_assoc, drain_append lawful (reader.buffer ++ first), List.foldl_append]

/-- Feeding the pieces one by one is feeding them at once. -/
theorem foldl_feed {cut : Cutter Symbol} (lawful : cut.Lawful)
    (handle : State → List Symbol → State) {reader : Reader Symbol State}
    (settled : cut reader.buffer = none) (chunks : List (List Symbol)) :
    chunks.foldl (Reader.feed cut handle) reader = reader.feed cut handle chunks.flatten := by
  induction chunks generalizing reader with
  | nil =>
    unfold Reader.feed
    rw [List.flatten_nil, List.append_nil, drain_of_none lawful settled]
    rfl
  | cons chunk rest inductionHypothesis =>
    rw [List.foldl_cons, inductionHypothesis (cut_drain lawful _), feed_append lawful,
      List.flatten_cons]

end Framing

end LocalGpuCluster
