/-!
# `Text.Digits` — numerals of a fixed width

The last `width` digits of a number in a base, leading zeros kept. Every fixed layout of digits — the
fraction of a decimal, the groups of an identifier, the two digits of a byte — is an instance.
-/

namespace EntityQuery

/-- The last `width` digits of `n` in a base up to sixteen, most significant first, in lower case. -/
def fixedDigits (base : Nat) : (width n : Nat) → List Char
  | 0, _ => []
  | width + 1, n => fixedDigits base width (n / base) ++ [Nat.digitChar (n % base)]

theorem fixedDigits_zero (base n : Nat) : fixedDigits base 0 n = [] := rfl

theorem fixedDigits_succ (base width n : Nat) :
    fixedDigits base (width + 1) n = fixedDigits base width (n / base) ++ [Nat.digitChar (n % base)] := rfl

@[simp] theorem length_fixedDigits (base width n : Nat) : (fixedDigits base width n).length = width := by
  induction width generalizing n with
  | zero => rfl
  | succ w ih => simp [fixedDigits_succ, ih]

/-- Cuts a list into consecutive groups of given lengths. -/
def groupsOf {α : Type} : List Nat → List α → List (List α)
  | [], _ => []
  | n :: ns, xs => xs.take n :: groupsOf ns (xs.drop n)

end EntityQuery
