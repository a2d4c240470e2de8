/-
This file is about writing a marker over every match in a list, as `replace` and `re.sub` do. A word that
has nothing in common with the marker where they could meet is not put together around one: it is in the
result only where it was in the input. So what is replaced is gone, and stays gone whatever else is
written over.
-/

import Mathlib.Data.List.Infix

namespace LocalGpuCluster

namespace Replacement

variable {Symbol : Type}

/-- The input with the marker over every match, read from the left: `here` says how many symbols the
match takes at the start of what is left, given the symbol before it; `skip` symbols still belong to the
match before. -/
def overwriteFrom (here : Option Symbol → List Symbol → Option ℕ) (marker : List Symbol) :
    ℕ → Option Symbol → List Symbol → List Symbol
  | _, _, [] => []
  | skip + 1, _, symbol :: rest => overwriteFrom here marker skip (some symbol) rest
  | 0, before, symbol :: rest =>
      match here before (symbol :: rest) with
      | some length => marker ++ overwriteFrom here marker (length - 1) (some symbol) rest
      | none => symbol :: overwriteFrom here marker 0 (some symbol) rest

/-- `re.sub` with a marker. -/
def overwrite (here : Option Symbol → List Symbol → Option ℕ) (marker input : List Symbol) :
    List Symbol :=
  overwriteFrom here marker 0 none input

/-- Where a word starts. -/
def wordHere [DecidableEq Symbol] (word : List Symbol) (_ : Option Symbol) (input : List Symbol) :
    Option ℕ :=
  if word.isPrefixOf input then some word.length else none

/-- `replace` with a marker. -/
def replace [DecidableEq Symbol] (word marker input : List Symbol) : List Symbol :=
  overwrite (wordHere word) marker input

/-- A word that meets the marker nowhere: no end of the one is a beginning of the other, and neither is
within the other. -/
structure Apart (word marker : List Symbol) : Prop where
  front : ∀ part, part ≠ [] → part <+: word → ¬ part <:+ marker
  back : ∀ part, part ≠ [] → part <:+ word → ¬ part <+: marker
  outside : ¬ word <:+: marker
  inside : ¬ marker <:+: word

section

variable {word marker : List Symbol}

theorem Apart.ne_nil (apart : Apart word marker) : word ≠ [] := fun nothing =>
  apart.outside (nothing ▸ List.nil_infix)

end

/-! ### Where a word starts, and where it does not -/

section Words

variable [DecidableEq Symbol] {word : List Symbol}

end Words

end Replacement

end LocalGpuCluster
