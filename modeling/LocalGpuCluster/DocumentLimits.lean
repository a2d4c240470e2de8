/-
This file models `load_document` of `documents.py`: the limits on the text, the parser, and the walk
over what it made. Aliases let the parsed document share nodes and come back to them, and every
consumer walks it as the tree it unfolds to, so the limits are on that tree. The walk keeps the nodes
it still has to visit on a stack and counts a node when it puts it there, and it ends at the first
node past a limit.
-/

import LocalGpuCluster.Text
import LocalGpuCluster.Unfolding
import Mathlib.Algebra.BigOperators.Group.List.Basic
import Mathlib.Data.ENat.Basic
import Mathlib.Tactic.Ring

namespace LocalGpuCluster

namespace VcfSpec

/-! ### Documents -/

/-- An object that the parser made: a mapping with its values, a list with its items, or a scalar.
The keys of a mapping are not counted. -/
inductive Content (Node : Type) where
  | mapping (values : List Node)
  | sequence (items : List Node)
  | scalar

/-- The objects one level below. -/
def Content.children {Node : Type} : Content Node → List Node
  | .mapping values => values
  | .sequence items => items
  | .scalar => []

def Content.isMapping {Node : Type} : Content Node → Bool
  | .mapping _ => true
  | _ => false

/-- The objects that the parser made, and the one that is the document. -/
structure ParsedDocument (Node : Type) where
  content : Node → Content Node
  root : Node

def ParsedDocument.children {Node : Type} (document : ParsedDocument Node) (node : Node) : List Node :=
  (document.content node).children

/-! ### The walk -/

def maxDepth : ℕ := 40
def maxNodes : ℕ := 200000

section Walk

variable {Node : Type}

/-- The inner loop of `_inspect`: each child is counted and put on the stack, `none` in the place of
the stack when one of them is past the limit. -/
def pushAll (level : ℕ) : List Node → ℕ → List (Node × ℕ) → ℕ × Option (List (Node × ℕ))
  | [], count, stack => (count, some stack)
  | value :: rest, count, stack =>
      if maxNodes < count + 1 then (count + 1, none)
      else pushAll level rest (count + 1) ((value, level + 1) :: stack)

/-- All children fit, or the count stops one past the limit. -/
theorem pushAll_eq {level count : ℕ} {values : List Node} {stack : List (Node × ℕ)}
    (within : count ≤ maxNodes) :
    pushAll level values count stack =
      if count + values.length ≤ maxNodes then
        (count + values.length, some ((values.map fun value => (value, level + 1)).reverse ++ stack))
      else (maxNodes + 1, none) := by
  induction values generalizing count stack with
  | nil =>
    show (count, some stack) = if count ≤ maxNodes then (count, some stack) else (maxNodes + 1, none)
    rw [if_pos within]
  | cons value rest inductionHypothesis =>
    rw [pushAll]
    by_cases past : maxNodes < count + 1
    · rw [if_pos past, if_neg (by simp only [List.length_cons]; omega),
        show count = maxNodes by omega]
    · rw [if_neg past, inductionHypothesis (by omega), List.length_cons,
        show count + 1 + rest.length = count + (rest.length + 1) by omega]
      simp

/-- A stack that grew is paid for by the count. -/
theorem pushAll_some {level count pushed : ℕ} {values : List Node} {stack grown : List (Node × ℕ)}
    (within : count ≤ maxNodes) (same : pushAll level values count stack = (pushed, some grown)) :
    pushed = count + values.length ∧ pushed ≤ maxNodes ∧
      grown = (values.map fun value => (value, level + 1)).reverse ++ stack := by
  rw [pushAll_eq within] at same
  split at same
  · rename_i fits
    obtain ⟨rfl, sameStack⟩ := Prod.mk.inj same
    exact ⟨rfl, fits, (Option.some.inj sameStack).symm⟩
  · cases (Prod.mk.inj same).2

theorem pushAll_none {level count pushed : ℕ} {values : List Node} {stack : List (Node × ℕ)}
    (within : count ≤ maxNodes) (same : pushAll level values count stack = (pushed, none)) :
    pushed = maxNodes + 1 ∧ maxNodes < count + values.length := by
  rw [pushAll_eq within] at same
  split at same
  · cases (Prod.mk.inj same).2
  · rename_i past
    exact ⟨(Prod.mk.inj same).1.symm, Nat.lt_of_not_le past⟩

variable (document : ParsedDocument Node)

/-- The outer loop of `_inspect`, with the deepest level, the count and the stack. Each round takes a
node off the stack, and what it puts there is counted. -/
def inspectFrom (deepest count : ℕ) (within : count ≤ maxNodes) : List (Node × ℕ) → ℕ × ℕ
  | [] => (deepest, count)
  | (current, level) :: stack =>
      if maxDepth < level then (max deepest level, count)
      else
        match same : pushAll level (document.children current) count stack with
        | (count, none) => (max deepest level, count)
        | (_, some grown) =>
            inspectFrom (max deepest level) _ (pushAll_some within same).2.1 grown
  termination_by stack => 2 * (maxNodes - count) + stack.length
  decreasing_by
    obtain ⟨rfl, fits, rfl⟩ := pushAll_some within same
    simp only [List.length_append, List.length_reverse, List.length_map, List.length_cons]
    omega

/-- `_inspect`. -/
def inspect : ℕ × ℕ := inspectFrom document 0 1 (by decide) [(document.root, 1)]

end Walk

/-! ### What the walk says -/

section Walked

variable {Node : Type} (document : ParsedDocument Node)

open Unfolding

/-- How many nodes are below a node of the tree. -/
noncomputable def below (node : Node) : ℕ∞ :=
  ((document.children node).map (size document.children)).sum

theorem size_eq_below (node : Node) : size document.children node = 1 + below document node :=
  size_eq node

/-- The children and what is below them are what is below the node. -/
theorem below_eq (node : Node) :
    below document node = (document.children node).length +
      ((document.children node).map (below document)).sum := by
  rw [below]
  induction document.children node with
  | nil => rfl
  | cons child rest inductionHypothesis =>
    rw [List.map_cons, List.sum_cons, inductionHypothesis, size_eq_below, List.map_cons, List.sum_cons,
      List.length_cons, Nat.cast_succ]
    ring

/-- Nothing that is still to be visited goes past the deepest level. -/
def Shallow (stack : List (Node × ℕ)) : Prop :=
  ∀ entry ∈ stack, ¬Reaches document.children entry.1 (maxDepth + 1 - entry.2)

/-- How many nodes are below those on the stack. -/
noncomputable def belowAll (stack : List (Node × ℕ)) : ℕ∞ :=
  (stack.map fun entry => below document entry.1).sum

theorem belowAll_cons (node : Node) (level : ℕ) (stack : List (Node × ℕ)) :
    belowAll document ((node, level) :: stack) = below document node + belowAll document stack := by
  rw [belowAll, List.map_cons, List.sum_cons]
  rfl

/-- The children of a node take its place on the stack. -/
theorem belowAll_pushed (node : Node) (level : ℕ) (stack : List (Node × ℕ)) :
    belowAll document (((document.children node).map fun value => (value, level)).reverse ++ stack) =
      ((document.children node).map (below document)).sum + belowAll document stack := by
  rw [belowAll, List.map_append, List.sum_append, List.map_reverse, List.sum_reverse, List.map_map]
  rfl

theorem shallow_cons_iff {node : Node} {level : ℕ} {stack : List (Node × ℕ)} (notPast : ¬maxDepth < level) :
    Shallow document ((node, level) :: stack) ↔
      Shallow document
        (((document.children node).map fun value => (value, level + 1)).reverse ++ stack) := by
  unfold Shallow
  rw [List.forall_mem_cons, List.forall_mem_append]
  refine and_congr_left fun _ => ?_
  rw [show maxDepth + 1 - level = maxDepth + 1 - (level + 1) + 1 by omega, reaches_succ]
  simp

/-- Of a walk that starts within the limits, what comes out is within them exactly when what is
still to be visited is. -/
theorem inspectFrom_spec {deepest count : ℕ} {within : count ≤ maxNodes} {stack : List (Node × ℕ)}
    (shallow : deepest ≤ maxDepth) :
    (inspectFrom document deepest count within stack).1 ≤ maxDepth ∧
        (inspectFrom document deepest count within stack).2 ≤ maxNodes ↔
      Shallow document stack ∧ count + belowAll document stack ≤ (maxNodes : ℕ∞) := by
  induction deepest, count, within, stack using inspectFrom.induct document with
  | case1 deepest count within =>
    rw [inspectFrom]
    refine iff_of_true ⟨shallow, within⟩ ⟨fun _ member => absurd member List.not_mem_nil, ?_⟩
    rw [belowAll, List.map_nil, List.sum_nil, add_zero]
    exact Nat.cast_le.mpr within
  | case2 deepest count within current level stack past =>
    rw [inspectFrom, if_pos past]
    refine iff_of_false (fun both => ?_) fun both => both.1 _ List.mem_cons_self ?_
    · exact absurd both.1 (Nat.not_le.mpr (past.trans_le (Nat.le_max_right _ _)))
    · rw [show maxDepth + 1 - level = 0 by omega]
      exact reaches_zero current
  | case3 deepest count within current level stack notPast pushed same =>
    rw [inspectFrom, if_neg notPast]
    obtain ⟨rfl, past⟩ := pushAll_none within same
    split
    · rename_i other isOther
      obtain rfl := (pushAll_none within isOther).1
      refine iff_of_false (fun both => absurd both.2 (Nat.not_succ_le_self _)) fun both => ?_
      have counted : ((count + (document.children current).length : ℕ) : ℕ∞) ≤ maxNodes := by
        refine le_trans ?_ both.2
        rw [belowAll_cons, below_eq, Nat.cast_add, add_assoc, ← add_assoc (count : ℕ∞)]
        exact le_self_add
      exact absurd (Nat.cast_le.mp counted) (Nat.not_le.mpr past)
    · rename_i other grown isOther
      cases same.symm.trans isOther
  | case4 deepest count within current level stack notPast pushed grown same inductionHypothesis =>
    rw [inspectFrom, if_neg notPast]
    split
    · rename_i other isOther
      cases same.symm.trans isOther
    · rename_i other grown' isOther
      obtain ⟨rfl, sameStack⟩ := Prod.mk.inj (same.symm.trans isOther)
      obtain rfl := Option.some.inj sameStack
      rw [inductionHypothesis (max_le shallow (Nat.not_lt.mp notPast)),
        shallow_cons_iff document notPast, belowAll_cons, below_eq]
      obtain ⟨rfl, _, rfl⟩ := pushAll_some within same
      rw [belowAll_pushed, Nat.cast_add, add_assoc, add_assoc]

end Walked

/-! ### The loader -/

/-- What `load_document` raises. -/
inductive LoadError where
  | unicodeEncode
  | tooLarge
  | tooManyAliases
  | tooDeep
  | yaml
  | notMapping
  | tooManyNodes
  deriving DecidableEq, Repr

/-- What the parser raises: its own limit on nesting, or anything else. -/
inductive SafeLoadError where
  | recursion
  | yaml
  deriving DecidableEq, Repr

def maxBytes : ℕ := 2000000
def maxAliases : ℕ := 100

def isStar (point : CodePoint) : Bool := point = 0x2A

/-- `[A-Za-z0-9_]`. -/
def isAliasStart (point : CodePoint) : Bool :=
  0x41 ≤ point.val && point.val ≤ 0x5A || 0x61 ≤ point.val && point.val ≤ 0x7A ||
    0x30 ≤ point.val && point.val ≤ 0x39 || point = 0x5F

section Loader

variable {Node : Type} (isWord : CodePoint → Bool)
  (safeLoad : Text → Except SafeLoadError (ParsedDocument Node))

/-- `len(_ALIAS_RE.findall(text))`, given what is before the text. What a match takes after its star
holds no star, so the matches are the stars where one begins. -/
def aliasesFrom : Option CodePoint → Text → ℕ
  | _, [] => 0
  | before, point :: rest =>
      (if isStar point && !before.any (fun other => isWord other || isStar other) &&
          rest.head?.any isAliasStart then 1 else 0) + aliasesFrom (some point) rest

/-- `load_document` up to the parsed text. -/
def readDocument (content : Text) : Except LoadError (ParsedDocument Node) :=
  if content.hasSurrogate then throw .unicodeEncode
  else if maxBytes < content.utf8Length then throw .tooLarge
  else if maxAliases < aliasesFrom isWord none content then throw .tooManyAliases
  else
    match safeLoad content with
    | .ok document => pure document
    | .error .recursion => throw .tooDeep
    | .error .yaml => throw .yaml

/-- `load_document` of a parsed text. -/
def withinLimits (document : ParsedDocument Node) : Except LoadError (ParsedDocument Node) :=
  if !(document.content document.root).isMapping then throw .notMapping
  else
    let (depth, nodes) := inspect document
    if maxDepth < depth then throw .tooDeep
    else if maxNodes < nodes then throw .tooManyNodes
    else pure document

/-- `load_document`. -/
def loadDocument (content : Text) : Except LoadError (ParsedDocument Node) := do
  withinLimits (← readDocument isWord safeLoad content)

end Loader

/-- The tree has a node deeper than the deepest level; the root is at level one. -/
def HasDeepNode {Node : Type} (document : ParsedDocument Node) : Prop :=
  ∃ path ∈ Unfolding.paths document.children document.root, maxDepth < path.length + 1

/-- The tree has more nodes than are allowed. -/
def HasManyNodes {Node : Type} (document : ParsedDocument Node) : Prop :=
  (maxNodes : ℕ∞) < Unfolding.size document.children document.root

theorem hasDeepNode_iff {Node : Type} (document : ParsedDocument Node) :
    HasDeepNode document ↔ Unfolding.Reaches document.children document.root maxDepth := by
  constructor
  · rintro ⟨path, member, deep⟩
    exact Unfolding.Reaches.of_le ⟨path, member, rfl⟩ (Nat.le_of_lt_succ deep)
  · rintro ⟨path, member, length⟩
    exact ⟨path, member, by omega⟩

/-- The walk stays within the limits exactly when the tree does. -/
theorem inspect_spec {Node : Type} (document : ParsedDocument Node) :
    (inspect document).1 ≤ maxDepth ∧ (inspect document).2 ≤ maxNodes ↔
      ¬HasDeepNode document ∧ ¬HasManyNodes document := by
  rw [inspect, inspectFrom_spec document (Nat.zero_le _), hasDeepNode_iff, HasManyNodes, not_lt,
    size_eq_below, belowAll_cons]
  refine and_congr ?_ ?_
  · exact List.forall_mem_singleton
  · rw [show belowAll document [] = 0 from rfl, add_zero]
    rfl

/-- A parsed document whose root is a mapping is rejected exactly when the tree it unfolds to has a
node past the deepest level or too many nodes. -/
theorem loadDocument_rejects_iff {Node : Type} {isWord : CodePoint → Bool}
    {safeLoad : Text → Except SafeLoadError (ParsedDocument Node)} {content : Text}
    {document : ParsedDocument Node} (parsed : readDocument isWord safeLoad content = .ok document)
    (isMapping : (document.content document.root).isMapping = true) :
    (∃ raised, loadDocument isWord safeLoad content = .error raised) ↔
      HasDeepNode document ∨ HasManyNodes document := by
  have limits := inspect_spec document
  rw [← not_or, iff_not_comm] at limits
  rw [limits, loadDocument, parsed]
  show (∃ raised, withinLimits document = .error raised) ↔ _
  unfold withinLimits
  rw [isMapping, Bool.not_true, if_neg Bool.false_ne_true]
  obtain ⟨depth, nodes⟩ := inspect document
  show (∃ raised, (if maxDepth < depth then _ else _) = _) ↔ ¬(depth ≤ maxDepth ∧ nodes ≤ maxNodes)
  by_cases deep : maxDepth < depth
  · rw [if_pos deep]
    exact iff_of_true ⟨_, rfl⟩ fun both => absurd both.1 (Nat.not_le.mpr deep)
  rw [if_neg deep]
  by_cases many : maxNodes < nodes
  · rw [if_pos many]
    exact iff_of_true ⟨_, rfl⟩ fun both => absurd both.2 (Nat.not_le.mpr many)
  · rw [if_neg many]
    exact iff_of_false (fun ⟨_, same⟩ => by cases same) fun past =>
      past ⟨Nat.not_lt.mp deep, Nat.not_lt.mp many⟩

/-- A mapping that is its own value. -/
def cyclic : ParsedDocument Unit where
  content := fun _ => .mapping [()]
  root := ()

/-- The document that an alias to its own root makes is rejected. -/
theorem loadDocument_rejects_cyclic :
    ∃ raised, loadDocument isAliasStart (fun _ => .ok cyclic) (text "&root \x7bself: *root\x7d") =
      .error raised := by
  refine (loadDocument_rejects_iff rfl rfl).mpr (Or.inl ⟨List.replicate maxDepth 0, ?_, ?_⟩)
  · show (Unfolding.follow cyclic.children () (List.replicate maxDepth 0)).isSome = true
    decide
  · rw [List.length_replicate]
    exact Nat.lt_succ_self maxDepth

end VcfSpec

end LocalGpuCluster
