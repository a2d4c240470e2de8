/-
This file holds the tree that a graph unfolds to from one of its nodes. A graph may share a node or
come back to it, so the tree may be far larger than the graph or infinite; a node of the tree is the
path of child positions that leads to it. The size of the tree, which may be infinite, is one more
than the sizes of the trees of the children, and a tree goes as far down as one of them and one step.
-/

import Mathlib.Data.Set.Card

namespace LocalGpuCluster

namespace Unfolding

variable {Node : Type} (children : Node → List Node)

/-- The node of the graph that a path of child positions leads to. -/
def follow : Node → List ℕ → Option Node
  | node, [] => some node
  | node, position :: path => ((children node)[position]?).bind fun child => follow child path

/-- The nodes of the tree. -/
def paths (root : Node) : Set (List ℕ) := {path | (follow children root path).isSome}

/-- The nodes of the trees of several roots, under the positions of the roots. -/
def forest (roots : List Node) : Set (List ℕ) :=
  {path | ∃ position rest, path = position :: rest ∧
    ∃ root, roots[position]? = some root ∧ rest ∈ paths children root}

/-- How many nodes the tree has. -/
noncomputable def size (root : Node) : ℕ∞ := (paths children root).encard

/-- The tree has a node that many steps below its root. -/
def Reaches (root : Node) (steps : ℕ) : Prop := ∃ path ∈ paths children root, path.length = steps

variable {children}

theorem mem_paths_cons {root : Node} {position : ℕ} {path : List ℕ} :
    position :: path ∈ paths children root ↔
      ∃ child, (children root)[position]? = some child ∧ path ∈ paths children child := by
  show (((children root)[position]?).bind fun child => follow children child path).isSome ↔ _
  cases (children root)[position]? with
  | none => exact iff_of_false (by simp) (by simp)
  | some child => simp [paths]

theorem paths_eq (root : Node) :
    paths children root = insert [] (forest children (children root)) := by
  ext path
  cases path with
  | nil => exact iff_of_true rfl (Set.mem_insert _ _)
  | cons position path =>
    rw [mem_paths_cons, Set.mem_insert_iff, or_iff_right (List.cons_ne_nil _ _)]
    constructor
    · rintro ⟨child, found, member⟩
      exact ⟨position, path, rfl, child, found, member⟩
    · rintro ⟨_, _, same, child, found, member⟩
      obtain ⟨rfl, rfl⟩ := List.cons.inj same
      exact ⟨child, found, member⟩

/-- The first position of a path, moved one on. -/
def shift : List ℕ → List ℕ
  | [] => []
  | position :: path => (position + 1) :: path

theorem shift_injective : Function.Injective shift := by
  intro first second same
  cases first <;> cases second <;> simp_all [shift]

theorem forest_cons (root : Node) (roots : List Node) :
    forest children (root :: roots) =
      List.cons 0 '' paths children root ∪ shift '' forest children roots := by
  ext path
  constructor
  · rintro ⟨position, rest, rfl, found, isFound, member⟩
    cases position with
    | zero =>
      obtain rfl := Option.some.inj isFound
      exact Or.inl ⟨rest, member, rfl⟩
    | succ position => exact Or.inr ⟨position :: rest, ⟨position, rest, rfl, found, isFound, member⟩, rfl⟩
  · rintro (⟨rest, member, rfl⟩ | ⟨_, ⟨position, rest, rfl, found, isFound, member⟩, rfl⟩)
    · exact ⟨0, rest, rfl, root, rfl, member⟩
    · exact ⟨position + 1, rest, rfl, found, isFound, member⟩

theorem encard_forest (roots : List Node) :
    (forest children roots).encard = (roots.map (size children)).sum := by
  induction roots with
  | nil =>
    have empty : forest children [] = ∅ := by
      ext path
      exact iff_of_false (fun ⟨_, _, _, _, found, _⟩ => by cases found) (Set.notMem_empty _)
    rw [empty, Set.encard_empty]
    rfl
  | cons root roots inductionHypothesis =>
    have apart : Disjoint (List.cons 0 '' paths children root) (shift '' forest children roots) := by
      refine Set.disjoint_left.mpr ?_
      rintro _ ⟨first, _, rfl⟩ ⟨_, ⟨position, rest, rfl, _⟩, same⟩
      cases same
    rw [forest_cons, Set.encard_union_eq apart, (List.cons_injective).encard_image,
      shift_injective.encard_image, inductionHypothesis, List.map_cons, List.sum_cons]
    rfl

/-- The size of a tree is one more than the sizes of the trees of the children. -/
theorem size_eq (root : Node) :
    size children root = 1 + ((children root).map (size children)).sum := by
  have fresh : [] ∉ forest children (children root) := fun ⟨_, _, same, _⟩ => by cases same
  rw [size, paths_eq, Set.encard_insert_of_notMem fresh, encard_forest, add_comm]

theorem reaches_zero (root : Node) : Reaches children root 0 := ⟨[], rfl, rfl⟩

/-- A tree goes further down exactly when the tree of a child goes one step less far. -/
theorem reaches_succ {root : Node} {steps : ℕ} :
    Reaches children root (steps + 1) ↔ ∃ child ∈ children root, Reaches children child steps := by
  constructor
  · rintro ⟨path, member, length⟩
    cases path with
    | nil => cases length
    | cons position path =>
      obtain ⟨child, found, inChild⟩ := mem_paths_cons.mp member
      exact ⟨child, List.mem_of_getElem? found, path, inChild, Nat.succ.inj length⟩
  · rintro ⟨child, member, path, inChild, length⟩
    obtain ⟨position, found⟩ := List.getElem?_of_mem member
    exact ⟨position :: path, mem_paths_cons.mpr ⟨child, found, inChild⟩, congrArg (· + 1) length⟩

/-- Every node between the root and a node of the tree is there. -/
theorem Reaches.of_le {root : Node} {steps fewer : ℕ} (reaches : Reaches children root steps)
    (le : fewer ≤ steps) : Reaches children root fewer := by
  induction fewer generalizing root steps with
  | zero => exact reaches_zero root
  | succ fewer inductionHypothesis =>
    cases steps with
    | zero => exact absurd le (Nat.not_succ_le_zero fewer)
    | succ steps =>
      obtain ⟨child, member, below⟩ := reaches_succ.mp reaches
      exact reaches_succ.mpr ⟨child, member, inductionHypothesis below (Nat.le_of_succ_le_succ le)⟩

end Unfolding

end LocalGpuCluster
