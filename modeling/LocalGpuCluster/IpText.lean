/-
This file proves that an IP address is read back from what is written of it. The hextets of an
`IPv6Address` are written between colons with a gap for a run of zeros, and the parts before and after
the gap determine how long it was.
-/

import LocalGpuCluster.IpAddress
import Mathlib.Data.List.Nodup
import Mathlib.Data.List.TakeWhile

namespace LocalGpuCluster

namespace Ip

/-! ### Numbers -/

theorem digitOf_digitChar : ∀ digit < 16,
    digitOf (Fin.ofNat 0x110000 (Nat.digitChar digit).toNat) = some digit := by
  decide

/-- A step of `numberOf`. -/
def pushDigit (base number : ℕ) (point : CodePoint) : Option ℕ :=
  (digitOf point).bind fun digit => if digit < base then some (number * base + digit) else none

/-- The digits of a number are read back. -/
theorem foldlM_toDigits {base : ℕ} (some : 1 < base) (few : base ≤ 16) (value : ℕ) :
    ((Nat.toDigits base value).map fun digit => (Fin.ofNat 0x110000 digit.toNat : CodePoint)).foldlM
      (pushDigit base) 0 = .some value := by
  have positive : 0 < base := Nat.zero_lt_of_lt some
  induction value using Nat.strongRecOn with
  | ind value inductionHypothesis =>
    by_cases small : value < base
    · rw [Nat.toDigits_of_lt_base small, List.map_singleton, List.foldlM_cons]
      unfold pushDigit
      rw [digitOf_digitChar value (Nat.lt_of_lt_of_le small few), Option.bind_some, if_pos small,
        Nat.zero_mul, Nat.zero_add]
      rfl
    · have digit : value % base < base := Nat.mod_lt _ positive
      rw [Nat.toDigits_of_base_le some (Nat.not_lt.mp small), List.map_append, List.foldlM_append,
        inductionHypothesis (value / base)
          (Nat.div_lt_self (Nat.lt_of_lt_of_le positive (Nat.not_lt.mp small)) some),
        List.map_singleton]
      show ((Option.some (value / base)).bind fun number => _) = _
      rw [Option.bind_some, List.foldlM_cons]
      unfold pushDigit
      rw [digitOf_digitChar _ (Nat.lt_of_lt_of_le digit few), Option.bind_some, if_pos digit,
        Nat.div_add_mod']
      rfl

theorem foldlM_hex (value : ℕ) : (hex value).foldlM (pushDigit 16) 0 = some value :=
  foldlM_toDigits (by decide) (by decide) value

theorem decimal_ne_nil (value : ℕ) : decimal (value : ℕ) ≠ [] := by
  rw [decimal_natCast, ne_eq, List.map_eq_nil_iff]
  exact Nat.toDigits_ne_nil

theorem numberOf_decimal (value : ℕ) : numberOf 10 (decimal (value : ℕ)) = some value := by
  unfold numberOf
  rw [if_neg (decimal_ne_nil value), decimal_natCast]
  exact foldlM_toDigits (by decide) (by decide) value

theorem isDigit_of_foldlM {base number result : ℕ} {digits : Text} {point : CodePoint}
    (read : digits.foldlM (pushDigit base) number = some result) (member : point ∈ digits) :
    (digitOf point).isSome = true := by
  induction digits generalizing number with
  | nil => cases member
  | cons head rest inductionHypothesis =>
    rw [List.foldlM_cons] at read
    obtain ⟨next, pushed, read⟩ := Option.bind_eq_some_iff.mp read
    obtain rfl | inRest := List.mem_cons.mp member
    · obtain ⟨digit, isDigit, _⟩ := Option.bind_eq_some_iff.mp pushed
      rw [isDigit]
      rfl
    · exact inductionHypothesis read inRest

/-- What is no digit is not written. -/
theorem not_mem_hex {point : CodePoint} (noDigit : digitOf point = none) (value : ℕ) :
    point ∉ hex value := fun member => by
  have isDigit := isDigit_of_foldlM (foldlM_hex value) member
  rw [noDigit] at isDigit
  cases isDigit

theorem hex_ne_nil (value : ℕ) : hex value ≠ [] := by
  unfold hex
  rw [ne_eq, List.map_eq_nil_iff]
  exact Nat.toDigits_ne_nil

theorem hextetOf_hex {value : ℕ} (small : value < 0x10000) : hextetOf (hex value) = some value := by
  have length : (hex value).length ≤ 4 := by
    unfold hex
    rw [List.length_map]
    exact (Nat.length_toDigits_le_iff (by decide) (by decide)).mpr small
  unfold hextetOf numberOf
  rw [if_neg (Nat.not_lt.mpr length), if_neg (hex_ne_nil value)]
  exact foldlM_hex value

theorem octetOf_decimal : ∀ value < 256, octetOf (decimal (value : ℕ)) = some value := by
  decide +kernel

/-! ### IPv4 -/

theorem splitOn_join {separator : CodePoint} {parts : List Text} (some : parts ≠ [])
    (without : ∀ part ∈ parts, separator ∉ part) :
    (Text.join [separator] parts).splitOn separator = parts :=
  List.splitOn_intercalate separator without some

theorem dot_not_mem_decimal (value : ℕ) : (0x2E : CodePoint) ∉ decimal (value : ℕ) := fun member => by
  have low := (isDigit_of_mem_decimal member).1
  revert low
  decide

theorem v4Of_v4Text (value : BitVec 32) : v4Of (v4Text value) = some value := by
  have bound := value.isLt
  have octet (shift : ℕ) : value.toNat / 2 ^ shift % 256 < 256 := Nat.mod_lt _ (by decide)
  have split : (v4Text value).splitOn 0x2E =
      [24, 16, 8, 0].map fun shift => decimal (value.toNat / 2 ^ shift % 256 : ℕ) := by
    refine splitOn_join (List.cons_ne_nil _ _) fun part member => ?_
    obtain ⟨shift, _, rfl⟩ := List.mem_map.mp member
    exact dot_not_mem_decimal _
  unfold v4Of
  rw [split]
  simp only [List.map_cons, List.map_nil, List.mapM_cons, List.mapM_nil,
    octetOf_decimal _ (octet _)]
  show some (BitVec.ofNat 32 _) = some value
  refine congrArg some (BitVec.eq_of_toNat_eq ?_)
  rw [BitVec.toNat_ofNat]
  omega

/-! ### Hextets -/

theorem length_hextets (value : BitVec 128) : (hextets value).length = 8 := by
  unfold hextets
  rw [List.length_map, List.length_range]

theorem hextets_lt {value : BitVec 128} {part : ℕ} (member : part ∈ hextets value) :
    part < 0x10000 := by
  obtain ⟨index, _, rfl⟩ := List.mem_map.mp member
  exact Nat.mod_lt _ (by decide)

theorem foldl_hextets (value : BitVec 128) :
    (hextets value).foldl (fun number hextet => number * 0x10000 + hextet) 0 = value.toNat := by
  have bound := value.isLt
  have join (power : ℕ) : value.toNat / 0x10000 ^ (power + 1) * 0x10000 +
      value.toNat / 0x10000 ^ power % 0x10000 = value.toNat / 0x10000 ^ power := by
    rw [Nat.pow_succ, ← Nat.div_div_eq_div_mul, Nat.div_add_mod']
  have first : value.toNat / 0x10000 ^ 7 % 0x10000 = value.toNat / 0x10000 ^ 7 :=
    Nat.mod_eq_of_lt (by omega)
  show ((((((((0 * 0x10000 + value.toNat / 0x10000 ^ 7 % 0x10000) * 0x10000 +
    value.toNat / 0x10000 ^ 6 % 0x10000) * 0x10000 + value.toNat / 0x10000 ^ 5 % 0x10000) * 0x10000 +
    value.toNat / 0x10000 ^ 4 % 0x10000) * 0x10000 + value.toNat / 0x10000 ^ 3 % 0x10000) * 0x10000 +
    value.toNat / 0x10000 ^ 2 % 0x10000) * 0x10000 + value.toNat / 0x10000 ^ 1 % 0x10000) * 0x10000 +
    value.toNat / 0x10000 ^ 0 % 0x10000) = value.toNat
  rw [Nat.zero_mul, Nat.zero_add, first, join, join, join, join, join, join, join, Nat.pow_zero,
    Nat.div_one]

theorem mapM_hextetOf {parts : List ℕ} (small : ∀ part ∈ parts, part < 0x10000) :
    (parts.map hex).mapM hextetOf = some parts := by
  induction parts with
  | nil => rfl
  | cons part rest inductionHypothesis =>
    rw [List.forall_mem_cons] at small
    rw [List.map_cons, List.mapM_cons, hextetOf_hex small.1, inductionHypothesis small.2]
    rfl

/-! ### The gap -/

/-- The parts on one side of the gap: none are an empty text at the end. -/
def side (parts : List ℕ) : List Text := if parts = [] then [[]] else parts.map hex

theorem side_ne_nil (parts : List ℕ) : side parts ≠ [] := by
  unfold side
  split
  · exact List.cons_ne_nil _ _
  · rename_i some
    exact fun none => some (List.map_eq_nil_iff.mp none)

theorem not_mem_side {point : CodePoint} (noDigit : digitOf point = none) {parts : List ℕ}
    {part : Text} (member : part ∈ side parts) : point ∉ part := by
  unfold side at member
  split at member
  · rw [List.mem_singleton.mp member]
    exact List.not_mem_nil
  · obtain ⟨value, _, rfl⟩ := List.mem_map.mp member
    exact not_mem_hex noDigit value

theorem besideGap_side {parts : List ℕ} {atEnd : Option Text}
    (small : ∀ part ∈ parts, part < 0x10000)
    (isEnd : ∃ part ∈ side parts, atEnd = some part) :
    besideGap atEnd (side parts) = some parts := by
  obtain ⟨part, member, rfl⟩ := isEnd
  unfold side at member ⊢
  unfold besideGap
  split at member
  · rename_i none
    rw [List.mem_singleton.mp member, if_pos rfl, if_pos none, none]
    rfl
  · rename_i some
    obtain ⟨value, _, rfl⟩ := List.mem_map.mp member
    rw [if_neg fun empty => hex_ne_nil value (Option.some.inj empty), if_neg some]
    exact mapM_hextetOf small

/-- The part at an index on one side is empty at the outer end only. -/
theorem eq_nil_of_side {parts : List ℕ} {index : ℕ} (empty : (side parts)[index]? = some []) :
    parts = [] ∧ index = 0 := by
  unfold side at empty
  split at empty
  · rename_i none
    obtain ⟨inRange, _⟩ := List.getElem?_eq_some_iff.mp empty
    exact ⟨none, by simpa using inRange⟩
  · obtain ⟨value, _, isNil⟩ := List.mem_map.mp (List.mem_of_getElem? empty)
    exact absurd isNil (hex_ne_nil value)

/-- The one part within that is empty is the gap. -/
theorem isGap_iff {before after : List ℕ} {index : ℕ} :
    (0 < index ∧ index + 1 < (side before ++ [] :: side after).length ∧
      (side before ++ [] :: side after)[index]? = some []) ↔ index = (side before).length := by
  have first := List.length_pos_iff.mpr (side_ne_nil before)
  have last := List.length_pos_iff.mpr (side_ne_nil after)
  rw [List.length_append, List.length_cons]
  constructor
  · rintro ⟨positive, inner, empty⟩
    by_contra apart
    by_cases left : index < (side before).length
    · rw [List.getElem?_append_left left] at empty
      exact Nat.ne_of_gt positive (eq_nil_of_side empty).2
    · obtain ⟨distance, rfl⟩ : ∃ distance, index = (side before).length + (distance + 1) :=
        ⟨index - (side before).length - 1, by omega⟩
      rw [List.getElem?_append_right (by omega), Nat.add_sub_cancel_left,
        List.getElem?_cons_succ] at empty
      obtain ⟨none, rfl⟩ := eq_nil_of_side empty
      have length : (side after).length = 1 := by rw [none]; rfl
      omega
  · rintro rfl
    refine ⟨first, by omega, ?_⟩
    rw [List.getElem?_append_right le_rfl, Nat.sub_self]
    rfl

theorem gaps_eq (before after : List ℕ) :
    ((List.range (side before ++ [] :: side after).length).filter fun index =>
      decide (0 < index) && decide (index + 1 < (side before ++ [] :: side after).length) &&
        decide ((side before ++ [] :: side after)[index]? = some [])) = [(side before).length] := by
  have isGap (index : ℕ) : (decide (0 < index) &&
      decide (index + 1 < (side before ++ [] :: side after).length) &&
      decide ((side before ++ [] :: side after)[index]? = some [])) =
      (index == (side before).length) := by
    rw [Bool.eq_iff_iff, Bool.and_eq_true, Bool.and_eq_true, decide_eq_true_eq, decide_eq_true_eq,
      decide_eq_true_eq, beq_iff_eq, and_assoc]
    exact isGap_iff
  rw [List.filter_congr fun index _ => isGap index, List.filter_beq,
    List.count_eq_one_of_mem List.nodup_range]
  · rfl
  · rw [List.mem_range, List.length_append, List.length_cons]
    omega

theorem hextetsOf_sides {before after : List ℕ} (smallBefore : ∀ part ∈ before, part < 0x10000)
    (smallAfter : ∀ part ∈ after, part < 0x10000) (few : before.length + after.length < 8) :
    hextetsOf (side before ++ [] :: side after) =
      some (before ++ List.replicate (8 - (before.length + after.length)) 0 ++ after) := by
  have firstPart : ∃ part ∈ side before, (side before ++ [] :: side after).head? = some part := by
    refine ⟨_, List.head_mem (side_ne_nil before), ?_⟩
    rw [List.head?_append_of_ne_nil _ (side_ne_nil before), List.head?_eq_some_head]
  have lastPart : ∃ part ∈ side after,
      (side before ++ [] :: side after).getLast? = some part := by
    refine ⟨_, List.getLast_mem (side_ne_nil after), ?_⟩
    rw [List.getLast?_append_of_ne_nil _ (List.cons_ne_nil _ _), List.getLast?_cons,
      List.getLast?_eq_some_getLast (side_ne_nil after)]
    rfl
  unfold hextetsOf
  dsimp only
  rw [gaps_eq]
  dsimp only
  rw [List.take_left, List.drop_append, List.drop_eq_nil_of_le (Nat.le_succ _), List.nil_append,
    Nat.add_sub_cancel_left, List.drop_one, List.tail_cons, besideGap_side smallBefore firstPart,
    besideGap_side smallAfter lastPart, Option.bind_some, Option.bind_some, if_pos few]

/-! ### IPv6 -/

abbrev colon : CodePoint := 0x3A
abbrev percent : CodePoint := 0x25

theorem join_append {separator : CodePoint} {first second : List Text} (someFirst : first ≠ [])
    (someSecond : second ≠ []) :
    Text.join [separator] (first ++ second) =
      Text.join [separator] first ++ separator :: Text.join [separator] second := by
  unfold Text.join
  induction first with
  | nil => exact absurd rfl someFirst
  | cons part rest inductionHypothesis =>
    by_cases last : rest = []
    · rw [last, List.singleton_append, List.intercalate_cons_of_ne_nil someSecond,
        List.intercalate_singleton]
      simp
    · rw [List.cons_append, List.intercalate_cons_of_ne_nil (by simp [last]),
        List.intercalate_cons_of_ne_nil last, inductionHypothesis last]
      simp

theorem join_side (parts : List ℕ) :
    Text.join [colon] (side parts) = Text.join [colon] (parts.map hex) := by
  unfold side
  split
  · rename_i none
    rw [none]
    rfl
  · rfl

theorem join_sides (before after : List ℕ) :
    Text.join [colon] (before.map hex) ++ text "::" ++ Text.join [colon] (after.map hex) =
      Text.join [colon] (side before ++ [] :: side after) := by
  have gap : Text.join [colon] ([] :: side after) = colon :: Text.join [colon] (side after) :=
    join_append (List.cons_ne_nil [] []) (side_ne_nil after)
  rw [join_append (side_ne_nil before) (List.cons_ne_nil _ _), gap, join_side, join_side,
    List.append_assoc]
  rfl

/-- The parts that are written, with or without a gap. -/
def v6Written (value : BitVec 128) : List Text :=
  let parts := hextets value
  let start := (List.range 8).foldl
    (fun best index => if zeroRun parts best < zeroRun parts index then index else best) 0
  if 1 < zeroRun parts start then
    side (parts.take start) ++ [] :: side (parts.drop (start + zeroRun parts start))
  else parts.map hex

theorem v6Text_eq (value : BitVec 128) : v6Text value = Text.join [colon] (v6Written value) := by
  unfold v6Text v6Written
  dsimp only
  split
  · exact join_sides _ _
  · rfl

theorem split_at_zeroRun (parts : List ℕ) (start : ℕ) :
    parts = parts.take start ++ List.replicate (zeroRun parts start) 0 ++
      parts.drop (start + zeroRun parts start) := by
  have zeros : (parts.drop start).takeWhile (· = 0) = List.replicate (zeroRun parts start) 0 :=
    List.eq_replicate_of_mem fun part member => by simpa using List.mem_takeWhile_imp member
  have rest : parts.drop (start + zeroRun parts start) = (parts.drop start).dropWhile (· = 0) := by
    rw [← List.drop_drop]
    conv_lhs => rw [← List.takeWhile_append_dropWhile (p := (· = 0)) (l := parts.drop start)]
    exact List.drop_left
  rw [rest, ← zeros, List.append_assoc, List.takeWhile_append_dropWhile, List.take_append_drop]

theorem hextetsOf_map {parts : List ℕ} (small : ∀ part ∈ parts, part < 0x10000)
    (eight : parts.length = 8) : hextetsOf (parts.map hex) = some parts := by
  have noGap : ((List.range (parts.map hex).length).filter fun index =>
      decide (0 < index) && decide (index + 1 < (parts.map hex).length) &&
        decide ((parts.map hex)[index]? = some [])) = [] := by
    refine List.filter_eq_nil_iff.mpr fun index _ isGap => ?_
    rw [Bool.and_eq_true, decide_eq_true_eq] at isGap
    obtain ⟨value, _, isNil⟩ := List.mem_map.mp (List.mem_of_getElem? isGap.2)
    exact hex_ne_nil value isNil
  unfold hextetsOf
  dsimp only
  rw [noGap]
  dsimp only
  rw [if_pos (by rw [List.length_map, eight])]
  exact mapM_hextetOf small

theorem hextetsOf_v6Written (value : BitVec 128) :
    hextetsOf (v6Written value) = some (hextets value) := by
  have small (part : ℕ) (member : part ∈ hextets value) : part < 0x10000 := hextets_lt member
  unfold v6Written
  dsimp only
  generalize (List.range 8).foldl (fun best index =>
    if zeroRun (hextets value) best < zeroRun (hextets value) index then index else best) 0 = start
  split
  · rename_i long
    have whole := split_at_zeroRun (hextets value) start
    have lengths := congrArg List.length whole
    rw [length_hextets, List.length_append, List.length_append, List.length_replicate] at lengths
    rw [hextetsOf_sides (fun part member => small part (List.mem_of_mem_take member))
      (fun part member => small part (List.mem_of_mem_drop member)) (by omega),
      show 8 - _ = zeroRun (hextets value) start by omega, ← whole]
  · exact hextetsOf_map small (length_hextets value)

/-! ### Reading back -/

theorem not_mem_v6Written {value : BitVec 128} {point : CodePoint} (noDigit : digitOf point = none)
    {part : Text} (member : part ∈ v6Written value) : point ∉ part := by
  unfold v6Written at member
  dsimp only at member
  split at member
  · obtain before | rfl | after := List.mem_append.mp member |>.imp_right List.mem_cons.mp
    · exact not_mem_side noDigit before
    · exact List.not_mem_nil
    · exact not_mem_side noDigit after
  · obtain ⟨number, _, rfl⟩ := List.mem_map.mp member
    exact not_mem_hex noDigit number

theorem length_v6Written (value : BitVec 128) : 3 ≤ (v6Written value).length := by
  unfold v6Written
  dsimp only
  generalize (List.range 8).foldl (fun best index =>
    if zeroRun (hextets value) best < zeroRun (hextets value) index then index else best) 0 = start
  split
  · have first := List.length_pos_iff.mpr (side_ne_nil ((hextets value).take start))
    have last := List.length_pos_iff.mpr (side_ne_nil
      ((hextets value).drop (start + zeroRun (hextets value) start)))
    rw [List.length_append, List.length_cons]
    omega
  · rw [List.length_map, length_hextets]
    decide

theorem v6Written_ne_nil (value : BitVec 128) : v6Written value ≠ [] := fun none => by
  have length := length_v6Written value
  rw [none] at length
  cases length

theorem not_mem_v6Text {value : BitVec 128} {point : CodePoint} (noDigit : digitOf point = none)
    (apart : point ≠ colon) : point ∉ v6Text value := by
  intro member
  rw [v6Text_eq] at member
  obtain ⟨part, written, inside⟩ := (Text.mem_join member).resolve_left
    fun between => apart (List.mem_singleton.mp between)
  exact not_mem_v6Written noDigit written inside

theorem colon_mem_v6Text (value : BitVec 128) : colon ∈ v6Text value := by
  rw [v6Text_eq]
  match isWritten : v6Written value, length_v6Written value with
  | first :: second :: rest, _ =>
    unfold Text.join
    rw [List.intercalate_cons_cons, List.mem_append, List.mem_append]
    exact .inl (.inr (List.mem_singleton_self colon))

theorem v6Parts_v6Text (value : BitVec 128) : v6Parts (v6Text value) = some (v6Written value) := by
  have split : (v6Text value).splitOn 0x3A = v6Written value := by
    rw [v6Text_eq]
    exact splitOn_join (v6Written_ne_nil value) fun part member =>
      not_mem_v6Written (by decide) member
  have last : ((v6Written value).getLastD []).contains 0x2E = false := by
    rw [List.getLastD_eq_getLast?, List.getLast?_eq_some_getLast (v6Written_ne_nil value)]
    refine Bool.eq_false_iff.mpr fun contained => ?_
    exact not_mem_v6Written (by decide) (List.getLast_mem (v6Written_ne_nil value))
      (List.contains_iff_mem.mp contained)
  unfold v6Parts
  rw [split]
  dsimp only
  rw [if_neg (Nat.not_lt.mpr (length_v6Written value)), last]
  rfl

/-- Nothing, or a scope id after a percent sign. -/
inductive IsScope : Text → Prop
  | none : IsScope []
  | some (id : Text) (named : id ≠ []) (noPercent : percent ∉ id) (noSlash : (0x2F : CodePoint) ∉ id) :
      IsScope (percent :: id)

theorem v6Of_append {content scope : Text} (isScope : IsScope scope) (noPercent : percent ∉ content)
    (noSlash : (0x2F : CodePoint) ∉ content) : v6Of (content ++ scope) =
      ((v6Parts content).bind hextetsOf).map fun hextets =>
        BitVec.ofNat 128 (hextets.foldl (fun number hextet => number * 0x10000 + hextet) 0) := by
  have all : ∀ point ∈ content, decide (point ≠ percent) = true := fun point member =>
    decide_eq_true fun same => noPercent (same ▸ member)
  have address : (content ++ scope).takeWhile (· ≠ percent) = content := by
    rw [List.takeWhile_append_of_pos all]
    cases isScope with
    | none => rw [List.takeWhile_nil, List.append_nil]
    | some id named noPercent noSlash =>
      rw [List.takeWhile_cons_of_neg (by simp), List.append_nil]
  have slash : (content ++ scope).contains 0x2F = false := by
    refine Bool.eq_false_iff.mpr fun contained => ?_
    obtain inContent | inScope := List.mem_append.mp (List.contains_iff_mem.mp contained)
    · exact noSlash inContent
    · cases isScope with
      | none => cases inScope
      | some id named noPercent withoutSlash =>
        obtain same | inId := List.mem_cons.mp inScope
        · exact absurd same (by decide)
        · exact withoutSlash inId
  have scopeFits : ((content ++ scope).contains percent &&
      (decide ((content ++ scope).drop (content.length + 1) = []) ||
        ((content ++ scope).drop (content.length + 1)).contains percent)) = false := by
    cases isScope with
    | none =>
      rw [List.append_nil, Bool.eq_false_iff.mpr fun contained =>
        noPercent (List.contains_iff_mem.mp contained), Bool.false_and]
    | some id named withoutPercent _ =>
      have rest : (content ++ percent :: id).drop (content.length + 1) = id := by
        rw [List.drop_append, List.drop_eq_nil_of_le (Nat.le_succ _), Nat.add_sub_cancel_left]
        rfl
      rw [rest, decide_eq_false named, Bool.eq_false_iff.mpr fun contained =>
        withoutPercent (List.contains_iff_mem.mp contained), Bool.or_self, Bool.and_false]
  unfold v6Of
  dsimp only
  rw [address, slash, scopeFits]
  rfl

theorem v6Of_v6Text {value : BitVec 128} {scope : Text} (isScope : IsScope scope) :
    v6Of (v6Text value ++ scope) = some value := by
  rw [v6Of_append isScope (not_mem_v6Text (by decide) (by decide))
    (not_mem_v6Text (by decide) (by decide)), v6Parts_v6Text, Option.bind_some,
    hextetsOf_v6Written, Option.map_some, foldl_hextets, BitVec.ofNat_toNat, BitVec.setWidth_eq]

theorem octetOf_eq_none {digits : Text} {point : CodePoint} (noDigit : digitOf point = none)
    (member : point ∈ digits) : octetOf digits = none := by
  have unread : numberOf 10 digits = none := by
    refine Option.eq_none_iff_forall_ne_some.mpr fun number read => ?_
    unfold numberOf at read
    rw [if_neg (List.ne_nil_of_mem member)] at read
    have isDigit := isDigit_of_foldlM read member
    rw [noDigit] at isDigit
    cases isDigit
  unfold octetOf
  rw [unread, Option.filter_none, ite_self]

theorem mapM_eq_none {Item Result : Type} {read : Item → Option Result} {items : List Item}
    {item : Item} (member : item ∈ items) (unread : read item = none) : items.mapM read = none := by
  induction items with
  | nil => cases member
  | cons head rest inductionHypothesis =>
    rw [List.mapM_cons]
    obtain rfl | inRest := List.mem_cons.mp member
    · rw [unread]
      rfl
    · rw [inductionHypothesis inRest]
      cases read head <;> rfl

/-- What has a colon in it is no IPv4 address. -/
theorem v4Of_eq_none {content : Text} (member : colon ∈ content) : v4Of content = none := by
  have joined : colon ∈ Text.join [0x2E] (content.splitOn 0x2E) := by
    unfold Text.join
    rwa [List.intercalate_splitOn]
  obtain ⟨part, inParts, inside⟩ := (Text.mem_join joined).resolve_left (by decide)
  unfold v4Of
  rw [mapM_eq_none inParts (octetOf_eq_none (by decide) inside)]

/-- The scope of a text that is an IPv6 address. -/
theorem isScope_of_v6Of {content : Text} {value : BitVec 128} (read : v6Of content = some value) :
    IsScope (content.dropWhile (· ≠ 0x25)) := by
  have whole := List.takeWhile_append_dropWhile (p := (· ≠ (0x25 : CodePoint))) (l := content)
  unfold v6Of at read
  dsimp only at read
  split at read
  · cases read
  · rename_i fits
    cases isRest : content.dropWhile (· ≠ 0x25) with
    | nil => exact .none
    | cons point id =>
      have isPercent : point = percent := by
        have head := List.head?_dropWhile_not (· ≠ (0x25 : CodePoint)) content
        rw [isRest] at head
        simpa using head
      rw [isRest, isPercent] at whole
      clear isRest read
      generalize content.takeWhile (· ≠ 0x25) = address at whole fits
      have rest : content.drop (address.length + 1) = id := by
        rw [← whole, List.drop_append, List.drop_eq_nil_of_le (Nat.le_succ _),
          Nat.add_sub_cancel_left]
        rfl
      have hasPercent : content.contains 0x25 = true := by
        rw [← whole]
        exact List.contains_iff_mem.mpr (List.mem_append_right _ List.mem_cons_self)
      rw [rest, hasPercent, Bool.true_and, Bool.or_eq_true, Bool.or_eq_true, decide_eq_true_eq,
        not_or, not_or] at fits
      obtain ⟨noSlash, named, noPercent⟩ := fits
      rw [isPercent]
      refine .some id named (fun member => noPercent (List.contains_iff_mem.mpr member))
        fun member => noSlash (List.contains_iff_mem.mpr ?_)
      rw [← whole]
      exact List.mem_append_right _ (List.mem_cons_of_mem _ member)

theorem v6Of_of_ofText {content : Text} {value : BitVec 128} (read : ofText content = some (.v6 value)) :
    v6Of content = some value := by
  unfold ofText at read
  cases isV4 : v4Of content with
  | some other =>
    rw [isV4] at read
    cases read
  | none =>
    rw [isV4] at read
    obtain ⟨found, isFound, same⟩ := Option.map_eq_some_iff.mp read
    cases same
    exact isFound

/-- What is written of an address, with a scope, is read as that address. -/
theorem ofText_v6Text {value : BitVec 128} {scope : Text} (isScope : IsScope scope) :
    ofText (v6Text value ++ scope) = some (.v6 value) := by
  unfold ofText
  rw [v4Of_eq_none (List.mem_append_left _ (colon_mem_v6Text value)), v6Of_v6Text isScope]
  rfl

theorem ofText_v4Text (value : BitVec 32) : ofText (v4Text value) = some (.v4 value) := by
  unfold ofText
  rw [v4Of_v4Text]
  rfl

/-- An address is read back from what is written of it. -/
theorem ofText_toText (address : Ip) : ofText address.toText = some address := by
  cases address with
  | v4 value => exact ofText_v4Text value
  | v6 value =>
    have read : ofText (v6Text value ++ []) = some (.v6 value) := ofText_v6Text .none
    rwa [List.append_nil] at read

/-! ### Dotted text -/

theorem eq_digitChar {point : CodePoint} {digit : ℕ} (read : digitOf point = some digit)
    (small : digit < 10) : point = Fin.ofNat 0x110000 (Nat.digitChar digit).toNat := by
  have low : ∀ digit < 10, (Nat.digitChar digit).toNat = 0x30 + digit := by decide
  rw [low digit small]
  unfold digitOf at read
  simp only [Bool.and_eq_true, decide_eq_true_eq] at read
  refine Fin.ext ?_
  simp only [Fin.ofNat]
  split at read
  next =>
    cases read
    omega
  next =>
    split at read
    next =>
      cases read
      omega
    next =>
      split at read
      next =>
        cases read
        omega
      next => cases read

theorem pushDigit_eq_some {number result : ℕ} {point : CodePoint}
    (read : pushDigit 10 number point = some result) :
    ∃ digit < 10, point = Fin.ofNat 0x110000 (Nat.digitChar digit).toNat ∧
      result = number * 10 + digit := by
  obtain ⟨digit, isDigit, rest⟩ := Option.bind_eq_some_iff.mp read
  split at rest
  next small =>
    cases rest
    exact ⟨digit, small, eq_digitChar isDigit small, rfl⟩
  next => cases rest

theorem decimal_push {number digit : ℕ} (positive : 0 < number) (small : digit < 10) :
    decimal ((number * 10 + digit : ℕ)) =
      decimal (number : ℕ) ++ [Fin.ofNat 0x110000 (Nat.digitChar digit).toNat] := by
  rw [decimal_natCast, decimal_natCast, Nat.toDigits_of_base_le (by decide) (by omega), List.map_append,
    List.map_singleton, show (number * 10 + digit) / 10 = number by omega,
    show (number * 10 + digit) % 10 = digit by omega]

/-- What is read after a first digit that is not zero is what is written of it. -/
theorem decimal_of_foldlM {digits : Text} {number result : ℕ} (positive : 0 < number)
    (read : digits.foldlM (pushDigit 10) number = some result) :
    decimal (result : ℕ) = decimal (number : ℕ) ++ digits := by
  induction digits generalizing number with
  | nil =>
    cases read
    rw [List.append_nil]
  | cons point rest inductionHypothesis =>
    rw [List.foldlM_cons] at read
    obtain ⟨next, pushed, read⟩ := Option.bind_eq_some_iff.mp read
    obtain ⟨digit, small, rfl, rfl⟩ := pushDigit_eq_some pushed
    rw [inductionHypothesis (by omega) read, decimal_push positive small, List.append_assoc]
    rfl

/-- An octet is only read where it is written. -/
theorem decimal_of_octetOf {digits : Text} {octet : ℕ} (read : octetOf digits = some octet) :
    decimal (octet : ℕ) = digits ∧ octet < 256 := by
  unfold octetOf at read
  split at read
  next => cases read
  next shape =>
    obtain ⟨read, fits⟩ := Option.filter_eq_some_iff.mp read
    refine ⟨?_, Nat.lt_succ_of_le (of_decide_eq_true fits)⟩
    unfold numberOf at read
    split at read
    next => cases read
    next =>
      change digits.foldlM (pushDigit 10) 0 = _ at read
      cases digits with
      | nil => contradiction
      | cons point rest =>
        rw [List.foldlM_cons] at read
        obtain ⟨next, pushed, read⟩ := Option.bind_eq_some_iff.mp read
        obtain ⟨digit, small, isPoint, rfl⟩ := pushDigit_eq_some pushed
        rw [Nat.zero_mul, Nat.zero_add] at read
        have first : decimal (digit : ℕ) = [point] := by
          rw [decimal_natCast, Nat.toDigits_of_lt_base small, List.map_singleton, isPoint]
        by_cases zero : digit = 0
        · -- A zero is the only digit.
          subst zero
          have alone : point :: rest = text "0" := by
            by_contra more
            have zeroFirst : point = 0x30 := isPoint
            simp [zeroFirst] at shape
            exact more (zeroFirst ▸ shape.2)
          obtain ⟨_, rfl⟩ := List.cons.inj alone
          cases read
          exact first
        · rw [decimal_of_foldlM (Nat.pos_of_ne_zero zero) read, first]
          rfl

theorem map_decimal_of_mapM {parts : List Text} {octets : List ℕ}
    (read : parts.mapM octetOf = some octets) :
    parts = octets.map (fun octet : ℕ => decimal octet) ∧ ∀ octet ∈ octets, octet < 256 := by
  induction parts generalizing octets with
  | nil =>
    cases read
    exact ⟨rfl, List.forall_mem_nil _⟩
  | cons part rest inductionHypothesis =>
    rw [List.mapM_cons] at read
    obtain ⟨octet, readHere, read⟩ := Option.bind_eq_some_iff.mp read
    obtain ⟨others, readRest, read⟩ := Option.bind_eq_some_iff.mp read
    cases read
    obtain ⟨written, small⟩ := decimal_of_octetOf readHere
    obtain ⟨rfl, smaller⟩ := inductionHypothesis readRest
    exact ⟨by rw [List.map_cons, written], List.forall_mem_cons.mpr ⟨small, smaller⟩⟩

/-- An address has one dotted text. -/
theorem v4Text_of_v4Of {content : Text} {value : BitVec 32} (read : v4Of content = some value) :
    v4Text value = content := by
  unfold v4Of at read
  split at read
  next first second third fourth octets =>
    cases read
    obtain ⟨parts, small⟩ := map_decimal_of_mapM octets
    simp only [List.forall_mem_cons, List.not_mem_nil, false_implies, implies_true, and_true] at small
    obtain ⟨smallFirst, smallSecond, smallThird, smallFourth⟩ := small
    have value : (BitVec.ofNat 32 (((first * 256 + second) * 256 + third) * 256 + fourth)).toNat =
        ((first * 256 + second) * 256 + third) * 256 + fourth := by
      rw [BitVec.toNat_ofNat]
      omega
    calc v4Text (BitVec.ofNat 32 (((first * 256 + second) * 256 + third) * 256 + fourth))
        = Text.join [0x2E] ([first, second, third, fourth].map fun octet : ℕ => decimal octet) := by
          unfold v4Text
          rw [value]
          simp only [List.map_cons, List.map_nil]
          congr <;> omega
      _ = Text.join [0x2E] (content.splitOn 0x2E) := by rw [parts]
      _ = content := List.intercalate_splitOn _
  next => cases read

end Ip

end LocalGpuCluster
