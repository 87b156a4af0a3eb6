import Mathlib.Data.Rat.Defs
import Mathlib.Tactic.FieldSimp
import EntityQuery.Literal.Basic
import EntityQuery.Text.Numeral
/-!
# `Proofs.Literal.WrittenForms` — how decimals, identifiers and byte strings are written

Three kinds of literal have a layout of their own: decimals with a sign, a point and as many places as their
scale, identifiers in five groups of digits, byte strings in pairs of digits. A layout says what stands where,
and which number the digits stand for. It does not say how the digits are computed, and it holds of every
value of the kind, however large or small.

## Contents
* `Decimal.WrittenAs`, `Guid.WrittenAs`, `Bytes.WrittenAs` — the three layouts.
* `Decimal.writtenAs_text`, `Guid.writtenAs_text`, `Bytes.writtenAs_text` — each value is written so.
-/

namespace EntityQuery

/-! ## Decimals -/

namespace Decimal

/-- The number that a sign, the digits before the point and the digits after it stand for. -/
def valueOf (sign whole fraction : List Char) : ℚ :=
  (if sign = ['-'] then -1 else 1) * (numeralValue 10 whole + numeralValue 10 fraction / 10 ^ fraction.length)

/-- The parts of a decimal's written form: a minus exactly when it is negative, a plain numeral, and as many
    digits after the point as the scale says; together they stand for the decimal exactly. -/
structure HasParts (d : Decimal) (sign whole fraction : List Char) : Prop where
  sign_eq : sign = if d.mantissa < 0 then ['-'] else []
  plain : PlainNumeral whole
  decimal : ∀ c ∈ fraction, c.isDigit = true
  places : fraction.length = d.scale
  exact : valueOf sign whole fraction = d.mantissa / 10 ^ d.scale

/-- **The written form of a decimal.** There is a point only when there are digits after it. -/
def WrittenAs (d : Decimal) (text : String) : Prop :=
  ∃ sign whole fraction, d.HasParts sign whole fraction ∧
    text.toList = sign ++ whole ++ if d.scale = 0 then [] else '.' :: fraction

variable (d : Decimal)

/-- The sign as it is written. -/
def sign : List Char := if d.mantissa < 0 then ['-'] else []

/-- The digits before the point. -/
def wholeDigits : List Char := Nat.toDigits 10 (d.mantissa.natAbs / 10 ^ d.scale)

/-- The digits after the point. -/
def fractionDigits : List Char := fixedDigits 10 d.scale d.mantissa.natAbs

theorem toList_signText : d.signText.toList = d.sign := by
  unfold signText sign
  split <;> rfl

/-- An integer is written as its size under its sign. -/
theorem toList_toString_int (m : Int) :
    (toString m).toList = (if m < 0 then ['-'] else []) ++ Nat.toDigits 10 m.natAbs := by
  cases m with
  | ofNat n =>
    have unsigned : ¬ Int.ofNat n < 0 := Int.not_lt.mpr (Int.natCast_nonneg n)
    rw [if_neg unsigned]
    show (toString n).toList = [] ++ Nat.toDigits 10 n
    rw [Nat.toString_eq_repr, Nat.repr_eq_ofList_toDigits, String.toList_ofList, List.nil_append]
  | negSucc n =>
    rw [if_pos (Int.negSucc_lt_zero n)]
    show ("-" ++ toString (n + 1)).toList = ['-'] ++ Nat.toDigits 10 (n + 1)
    rw [Nat.toString_eq_repr, Nat.repr_eq_ofList_toDigits, String.toList_append, String.toList_ofList,
      String.toList_ofList]

/-- **The point stands by division.** Cutting the padded digits puts the whole part of the mantissa over ten to the
    scale before the point, and its remainder after it. -/
theorem splitAt_paddedDigits :
    d.paddedDigits.splitAt (d.paddedDigits.length - d.scale) = (d.wholeDigits, d.fractionDigits) := by
  have padded : d.paddedDigits = d.wholeDigits ++ d.fractionDigits := leftpad_toDigits d.scale d.mantissa.natAbs
  have places : d.fractionDigits.length = d.scale := length_fixedDigits 10 d.scale _
  have before : d.paddedDigits.length - d.scale = d.wholeDigits.length := by
    rw [padded, List.length_append, places, Nat.add_sub_cancel]
  rw [before, padded, List.splitAt_eq, List.take_left, List.drop_left]

/-- What is written of a decimal, part by part. -/
theorem toList_text :
    d.text.toList = d.sign ++ d.wholeDigits ++ if d.scale = 0 then [] else '.' :: d.fractionDigits := by
  unfold text
  by_cases whole : d.scale = 0
  · rw [if_pos whole, if_pos whole, toList_toString_int, wholeDigits, whole, pow_zero, Nat.div_one, List.append_nil]
    rfl
  · rw [if_neg whole, if_neg whole, splitAt_paddedDigits]
    simp only [String.toList_append, toList_signText, String.toList_ofList, List.append_assoc]
    rfl

theorem numeralValue_wholeDigits : numeralValue 10 d.wholeDigits = d.mantissa.natAbs / 10 ^ d.scale :=
  numeralValue_toDigits _

theorem numeralValue_fractionDigits : numeralValue 10 d.fractionDigits = d.mantissa.natAbs % 10 ^ d.scale :=
  numeralValue_fixedDigits (by omega) (by omega) d.scale d.mantissa.natAbs

theorem length_fractionDigits : d.fractionDigits.length = d.scale := length_fixedDigits 10 d.scale _

/-- **No digit is lost:** the digits before and after the point are those of the mantissa. -/
theorem numeralValue_digits : numeralValue 10 (d.wholeDigits ++ d.fractionDigits) = d.mantissa.natAbs := by
  rw [numeralValue_append, numeralValue_wholeDigits, numeralValue_fractionDigits, length_fractionDigits]
  exact Nat.div_add_mod' _ _

/-- A mantissa is its size under its sign. -/
theorem signed_natAbs (m : Int) : (if m < 0 then -1 else 1) * (m.natAbs : ℚ) = m := by
  by_cases negative : m < 0
  · have size : (m.natAbs : Int) = -m := by omega
    rw [if_pos negative, ← Int.cast_natCast, size]
    simp
  · have size : (m.natAbs : Int) = m := by omega
    rw [if_neg negative, ← Int.cast_natCast, size]
    simp

/-- **Decimals are written exactly.** The parts stand for the mantissa over ten to the scale. -/
theorem valueOf_parts : valueOf d.sign d.wholeDigits d.fractionDigits = d.mantissa / 10 ^ d.scale := by
  have split : ((d.mantissa.natAbs / 10 ^ d.scale : Nat) : ℚ) * 10 ^ d.scale +
      (d.mantissa.natAbs % 10 ^ d.scale : Nat) = d.mantissa.natAbs := by
    exact_mod_cast Nat.div_add_mod' d.mantissa.natAbs (10 ^ d.scale)
  have minus : (if d.sign = ['-'] then (-1 : ℚ) else 1) = if d.mantissa < 0 then -1 else 1 := by
    unfold sign
    by_cases negative : d.mantissa < 0 <;> simp [negative]
  unfold valueOf
  rw [minus, numeralValue_wholeDigits, numeralValue_fractionDigits, length_fractionDigits,
    ← signed_natAbs d.mantissa, ← split]
  field_simp

/-- **Every decimal is written so.** -/
theorem writtenAs_text : d.WrittenAs d.text := by
  refine ⟨d.sign, d.wholeDigits, d.fractionDigits, ?_, d.toList_text⟩
  exact {
    sign_eq := rfl
    plain := plainNumeral_toDigits _
    decimal := fun _ => isDigit_of_mem_fixedDigits
    places := d.length_fractionDigits
    exact := d.valueOf_parts }

end Decimal

/-! ## Identifiers -/

/-- Cutting digits into groups loses none, where the groups take them all. -/
theorem flatten_groupsOf {α : Type} {lengths : List Nat} {xs : List α} (all : xs.length ≤ lengths.sum) :
    (groupsOf lengths xs).flatten = xs := by
  induction lengths generalizing xs with
  | nil =>
    obtain rfl := List.eq_nil_of_length_eq_zero (Nat.le_zero.mp all)
    rfl
  | cons n ns ih =>
    rw [List.sum_cons] at all
    rw [groupsOf, List.flatten_cons, ih (by rw [List.length_drop]; omega), List.take_append_drop]

/-- The groups have the lengths asked for, where there are enough digits. -/
theorem map_length_groupsOf {α : Type} {lengths : List Nat} {xs : List α} (enough : lengths.sum ≤ xs.length) :
    (groupsOf lengths xs).map List.length = lengths := by
  induction lengths generalizing xs with
  | nil => rfl
  | cons n ns ih =>
    rw [List.sum_cons] at enough
    rw [groupsOf, List.map_cons, ih (by rw [List.length_drop]; omega), List.length_take, min_eq_left (by omega)]

/-- A digit in base sixteen, in lower case. -/
def isLowerDigit (c : Char) : Bool := c.isDigit || ('a' ≤ c && c ≤ 'f')

/-- A digit in base sixteen, in upper case. -/
def isUpperDigit (c : Char) : Bool := c.isDigit || ('A' ≤ c && c ≤ 'F')

namespace Guid

/-- **The written form of an identifier:** 32 lower-case digits that stand for it, in groups of 8, 4, 4, 4 and 12
    with hyphens between them. -/
def WrittenAs (g : Guid) (text : String) : Prop :=
  ∃ groups : List (List Char), groups.map List.length = [8, 4, 4, 4, 12] ∧
    (∀ c ∈ groups.flatten, isLowerDigit c = true) ∧ numeralValue 16 groups.flatten = g.toNat ∧
    text = "-".intercalate (groups.map String.ofList)

variable (g : Guid)

/-- The digits of an identifier. -/
def digits : List Char := fixedDigits 16 32 g.toNat

theorem isLowerDigit_of_mem_digits {c : Char} (h : c ∈ g.digits) : isLowerDigit c = true := by
  obtain ⟨d, small, rfl⟩ := exists_digitChar_of_mem_fixedDigits (by omega) h
  exact forall_digit (P := fun d => isLowerDigit (Nat.digitChar d) = true) (by decide) (by omega) small

/-- The digits of an identifier stand for it. -/
theorem numeralValue_digits : numeralValue 16 g.digits = g.toNat := by
  refine numeralValue_fixedDigits_of_lt (by omega) (by omega) ?_
  have bound := g.isLt
  rw [show (16 : Nat) ^ 32 = 2 ^ 128 by norm_num]
  exact bound

theorem flatten_groups : (groupsOf groupLengths g.digits).flatten = g.digits := by
  apply flatten_groupsOf
  rw [digits, length_fixedDigits]
  decide

/-- **Every identifier is written so.** -/
theorem writtenAs_text : g.WrittenAs g.text := by
  refine ⟨groupsOf groupLengths g.digits, ?_, ?_, ?_, rfl⟩
  · apply map_length_groupsOf
    rw [digits, length_fixedDigits]
    decide
  · rw [flatten_groups]
    exact fun c h => g.isLowerDigit_of_mem_digits h
  · rw [flatten_groups]
    exact g.numeralValue_digits

end Guid

/-! ## Byte strings -/

namespace Bytes

/-- Two upper-case digits that stand for a byte. -/
structure Pair (byte : UInt8) (digits : List Char) : Prop where
  two : digits.length = 2
  upper : ∀ c ∈ digits, isUpperDigit c = true
  value : numeralValue 16 digits = byte.toNat

/-- **The written form of a byte string:** `0x`, then a pair of digits for each byte. -/
def WrittenAs (bytes : Bytes) (text : String) : Prop :=
  ∃ pairs : List (List Char), List.Forall₂ Pair bytes pairs ∧ text = "0x" ++ String.ofList pairs.flatten

/-- The two digits of a byte. -/
def pairOf (byte : UInt8) : List Char := (fixedDigits 16 2 byte.toNat).map Char.toUpper

theorem pairOf_eq (byte : UInt8) :
    pairOf byte = [(Nat.digitChar (byte.toNat / 16 % 16)).toUpper, (Nat.digitChar (byte.toNat % 16)).toUpper] := rfl

theorem pair_pairOf (byte : UInt8) : Pair byte (pairOf byte) where
  two := rfl
  upper c h := by
    obtain ⟨digit, hd, rfl⟩ := List.mem_map.mp h
    obtain ⟨d, small, rfl⟩ := exists_digitChar_of_mem_fixedDigits (by omega) hd
    exact forall_digit (P := fun d => isUpperDigit (Nat.digitChar d).toUpper = true) (by decide) (by omega) small
  value := by
    have high : digitValue (Nat.digitChar (byte.toNat / 16 % 16)).toUpper = byte.toNat / 16 % 16 :=
      @digitValue_toUpper_digitChar 16 _ (by omega) (by omega)
    have low : digitValue (Nat.digitChar (byte.toNat % 16)).toUpper = byte.toNat % 16 :=
      @digitValue_toUpper_digitChar 16 _ (by omega) (by omega)
    have bound := byte.toNat_lt
    rw [pairOf_eq, ← List.singleton_append, numeralValue_append, numeralValue_singleton, numeralValue_singleton,
      high, low, List.length_singleton]
    omega

/-- **Every byte string is written so.** -/
theorem writtenAs_text (bytes : Bytes) : WrittenAs bytes bytes.text := by
  refine ⟨bytes.map pairOf, ?_, ?_⟩
  · rw [List.forall₂_map_right_iff, List.forall₂_same]
    exact fun byte _ => pair_pairOf byte
  · rw [text, ← List.flatMap_def]
    rfl

end Bytes
end EntityQuery
