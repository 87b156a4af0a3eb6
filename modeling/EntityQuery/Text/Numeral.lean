import Mathlib.Data.Nat.Digits.Defs
import EntityQuery.Text.Digits
/-!
# `Text.Numeral` — what digits stand for

Digits in a row stand for a number: each place counts base times as much as the next. This is the meaning of
every layout of digits, and it is independent of how the digits were come by. Writing a number by its last
digits, and writing it by all of them, both give digits that stand for it.

## Contents
* `digitValue`, `numeralValue` — the number of a digit, and of digits in a row.
* `numeralValue_append` — a numeral in two parts.
* `numeralValue_fixedDigits`, `numeralValue_toDigits` — a number's digits stand for it.
* `leftpad_toDigits` — the digits of a number with zeros in front, cut in two.
* `PlainNumeral` — decimal digits without superfluous zeros; `plainNumeral_toDigits`.
-/

namespace EntityQuery

/-! ## Values -/

/-- The value of a digit: decimal digits, then letters in either case. -/
def digitValue (c : Char) : Nat :=
  if c.isDigit then c.toNat - '0'.toNat else c.toLower.toNat - 'a'.toNat + 10

/-- The number that digits in a row stand for, the most significant first. -/
def numeralValue (base : Nat) (digits : List Char) : Nat :=
  Nat.ofDigits base (digits.reverse.map digitValue)

/-- What holds of the digits up to fifteen holds of each digit in a base up to sixteen. -/
theorem forall_digit {P : Nat → Prop} (all : ∀ d ∈ List.range 16, P d) {base d : Nat} (small : base ≤ 16)
    (h : d < base) : P d :=
  all d (List.mem_range.mpr (by omega))

theorem digitValue_digitChar {base d : Nat} (small : base ≤ 16) (h : d < base) :
    digitValue (Nat.digitChar d) = d :=
  forall_digit (P := fun d => digitValue (Nat.digitChar d) = d) (by decide) small h

/-- A digit has the same value in upper case. -/
theorem digitValue_toUpper_digitChar {base d : Nat} (small : base ≤ 16) (h : d < base) :
    digitValue (Nat.digitChar d).toUpper = d :=
  forall_digit (P := fun d => digitValue (Nat.digitChar d).toUpper = d) (by decide) small h

theorem numeralValue_nil (base : Nat) : numeralValue base [] = 0 := rfl

@[simp] theorem numeralValue_singleton (base : Nat) (c : Char) : numeralValue base [c] = digitValue c := by
  simp [numeralValue]

/-- **A numeral in two parts** counts its first part once for each place of the second. -/
theorem numeralValue_append (base : Nat) (xs ys : List Char) :
    numeralValue base (xs ++ ys) = numeralValue base xs * base ^ ys.length + numeralValue base ys := by
  unfold numeralValue
  rw [List.reverse_append, List.map_append, Nat.ofDigits_append, List.length_map, List.length_reverse]
  ring

/-! ## Digits of a number -/

section Fixed

variable {base : Nat}

/-- The digits of fixed width are digits in the base. -/
theorem exists_digitChar_of_mem_fixedDigits (positive : 0 < base) {width n : Nat} {c : Char}
    (h : c ∈ fixedDigits base width n) : ∃ d, d < base ∧ c = Nat.digitChar d := by
  induction width generalizing n with
  | zero => exact absurd h List.not_mem_nil
  | succ width ih =>
    rw [fixedDigits_succ] at h
    rcases List.mem_append.mp h with h | h
    · exact ih h
    · exact ⟨n % base, Nat.mod_lt n positive, List.mem_singleton.mp h⟩

/-- In base ten they are decimal digits. -/
theorem isDigit_of_mem_fixedDigits {width n : Nat} {c : Char} (h : c ∈ fixedDigits 10 width n) : c.isDigit = true := by
  obtain ⟨d, small, rfl⟩ := exists_digitChar_of_mem_fixedDigits (by omega) h
  rw [Nat.isDigit_digitChar, decide_eq_true_eq]
  exact small

/-- **The last digits of a number** stand for its remainder. -/
theorem numeralValue_fixedDigits (positive : 0 < base) (small : base ≤ 16) (width n : Nat) :
    numeralValue base (fixedDigits base width n) = n % base ^ width := by
  induction width generalizing n with
  | zero => rw [fixedDigits_zero, numeralValue_nil, pow_zero, Nat.mod_one]
  | succ width ih =>
    have last : digitValue (Nat.digitChar (n % base)) = n % base :=
      digitValue_digitChar small (Nat.mod_lt n positive)
    rw [fixedDigits_succ, numeralValue_append, ih, numeralValue_singleton, last, List.length_singleton,
      pow_one, pow_succ', Nat.mod_mul]
    ring

/-- All digits of a number stand for it. -/
theorem numeralValue_fixedDigits_of_lt (positive : 0 < base) (small : base ≤ 16) {width n : Nat}
    (h : n < base ^ width) : numeralValue base (fixedDigits base width n) = n := by
  rw [numeralValue_fixedDigits positive small, Nat.mod_eq_of_lt h]

end Fixed

/-- The decimal digits of a number stand for it. -/
theorem numeralValue_toDigits (n : Nat) : numeralValue 10 (Nat.toDigits 10 n) = n := by
  induction n using Nat.strong_induction_on with
  | _ n ih =>
    by_cases short : n < 10
    · have only : digitValue (Nat.digitChar n) = n := @digitValue_digitChar 10 n (by omega) short
      rw [Nat.toDigits_of_lt_base short, numeralValue_singleton, only]
    · have last : digitValue (Nat.digitChar (n % 10)) = n % 10 :=
        @digitValue_digitChar 10 (n % 10) (by omega) (by omega)
      rw [Nat.toDigits_of_base_le (by omega) (by omega), numeralValue_append, ih (n / 10) (by omega),
        numeralValue_singleton, last, List.length_singleton]
      omega

/-- Padding is done in front, so it does not matter whether the last digit is there already. -/
theorem leftpad_concat {α : Type} (width : Nat) (a c : α) (xs : List α) :
    (xs ++ [c]).leftpad (width + 1) a = xs.leftpad width a ++ [c] := by
  simp [List.leftpad]

/-- **Padding fills up a fraction.** The digits of a number, padded to one more than `width`, are those of the number
    without its last `width` digits, and these. -/
theorem leftpad_toDigits (width n : Nat) :
    (Nat.toDigits 10 n).leftpad (width + 1) '0' = Nat.toDigits 10 (n / 10 ^ width) ++ fixedDigits 10 width n := by
  induction width generalizing n with
  | zero =>
    have some := List.length_pos_iff.mpr (@Nat.toDigits_ne_nil n 10)
    have none : 0 + 1 - (Nat.toDigits 10 n).length = 0 := by omega
    rw [List.leftpad, none, pow_zero, Nat.div_one, fixedDigits_zero, List.replicate_zero, List.nil_append, List.append_nil]
  | succ width ih =>
    have shift : n / 10 ^ (width + 1) = n / 10 / 10 ^ width := by rw [pow_succ', Nat.div_div_eq_div_mul]
    rw [fixedDigits_succ, shift, ← List.append_assoc, ← ih]
    by_cases short : n < 10
    · -- nothing is left before the only digit, so a zero is written there
      have nothing : n / 10 = 0 := by omega
      rw [nothing, Nat.toDigits_zero, Nat.toDigits_of_lt_base short, Nat.mod_eq_of_lt short, List.leftpad, List.leftpad,
        List.length_singleton, List.length_singleton, Nat.add_sub_cancel, Nat.add_sub_cancel, List.replicate_succ']
    · rw [Nat.toDigits_of_base_le (by omega) (by omega), leftpad_concat]

/-! ## Plain numerals -/

/-- **A plain numeral:** decimal digits, at least one, and no zero in front of others. -/
structure PlainNumeral (digits : List Char) : Prop where
  decimal : ∀ c ∈ digits, c.isDigit = true
  nonempty : digits ≠ []
  leading : digits.head? = some '0' → digits = ['0']

/-- A positive number does not begin with a zero. -/
theorem head?_toDigits_ne_zero {n : Nat} (positive : 0 < n) : (Nat.toDigits 10 n).head? ≠ some '0' := by
  induction n using Nat.strong_induction_on with
  | _ n ih =>
    by_cases short : n < 10
    · rw [Nat.toDigits_of_lt_base short, List.head?_singleton, Ne, Option.some.injEq, Nat.digitChar_eq_zero]
      omega
    · -- the first digit is that of the number without its last one
      obtain ⟨c, first⟩ : ∃ c, (Nat.toDigits 10 (n / 10)).head? = some c :=
        ⟨_, List.head?_eq_some_head Nat.toDigits_ne_nil⟩
      have rest := ih (n / 10) (by omega) (by omega)
      rw [first] at rest
      rw [Nat.toDigits_of_base_le (by omega) (by omega), List.head?_append, first]
      exact rest

/-- Numbers are written as plain numerals. -/
theorem plainNumeral_toDigits (n : Nat) : PlainNumeral (Nat.toDigits 10 n) where
  decimal c h := Nat.isDigit_of_mem_toDigits (by omega) (by omega) h
  nonempty := Nat.toDigits_ne_nil
  leading h := by
    by_cases zero : n = 0
    · rw [zero]
      exact Nat.toDigits_zero 10
    · exact absurd h (head?_toDigits_ne_zero (by omega))

end EntityQuery
