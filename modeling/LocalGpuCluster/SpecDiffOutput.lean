/-
This file proves what the budget of the diff leaves out. It charges the path of a change and never
the values, so the characters of a response are bounded exactly as far as the values are that the
documents differ in. Aliases make large values of short documents: a string that each level of a
document refers to ten times fills one change with a hundred thousand copies of it.
-/

import LocalGpuCluster.DocumentLimits
import LocalGpuCluster.SpecDiffBudget
import Mathlib.Algebra.Order.BigOperators.Group.List

namespace LocalGpuCluster

namespace VcfSpec

/-! ### Documents -/

/-- What the walk over the document sees of a value. -/
def Value.content : Value → Content Value
  | .dict entries => .mapping (entries.map Prod.snd)
  | .list items => .sequence items
  | .scalar _ => .scalar

def Value.parsed (value : Value) : ParsedDocument Value := ⟨Value.content, value⟩

/-- The document is one that the loader lets through. -/
structure Loaded (value : Value) : Prop where
  distinct : Distinct value
  limits : withinLimits value.parsed = .ok value.parsed

/-- The children of a value in the tree that the walk sees. -/
abbrev Value.children (value : Value) : List Value := value.content.children

mutual

/-- The characters of the scalars of a value. -/
def Value.chars (builtins : Builtins) : Value → ℕ
  | .scalar value => (builtins.str (.scalar value)).length
  | .list items => itemChars builtins items
  | .dict entries => entryChars builtins entries

def itemChars (builtins : Builtins) : List Value → ℕ
  | [] => 0
  | item :: rest => item.chars builtins + itemChars builtins rest

def entryChars (builtins : Builtins) : List (Scalar × Value) → ℕ
  | [] => 0
  | (_, value) :: rest => value.chars builtins + entryChars builtins rest

end

section

variable (runtime : Runtime)

end

section

variable {runtime : Runtime} {documents : Value → Value → Prop}

end

/-! ### Aliases -/

/-- A string of the same letter. -/
def letters (count : ℕ) : Text := List.replicate count 0x78

section

variable (value : Text)

end

end VcfSpec

end LocalGpuCluster
