import EntityQuery.Rejection
/-!
# `Literal.Decimal` — fixed-point decimals

A decimal is a whole mantissa and a scale, the number of its fraction digits. The scale is part of the
value: `1.5` and `1.50` are different decimals. Scales go up to 28.
-/

namespace EntityQuery

/-- The fixed-point number `mantissa / 10 ^ scale`. -/
structure Decimal where
  mantissa : Int
  scale : Nat
  scale_le : scale ≤ 28
deriving DecidableEq

namespace Decimal

/-- The largest scale. -/
def maxScale : Nat := 28

/-- A decimal of a mantissa and a scale, if the scale is not too large. -/
def make (mantissa : Int) (scale : Nat) : Except Rejection Decimal :=
  if h : scale ≤ maxScale then .ok ⟨mantissa, scale, h⟩
  else .error (.scaleOutOfRange .scale scale maxScale)

theorem make_eq_ok_iff {m : Int} {s : Nat} {d : Decimal} :
    make m s = .ok d ↔ d.mantissa = m ∧ d.scale = s := by
  unfold make
  constructor
  · intro h
    -- a scale that is too large makes no decimal
    split at h
    · cases h
      exact ⟨rfl, rfl⟩
    · cases h
  · rintro ⟨rfl, rfl⟩
    exact dif_pos d.scale_le

/-- The sign of a decimal: a minus before negative ones, nothing before the others. -/
def signText (d : Decimal) : String := if d.mantissa < 0 then "-" else ""

/-- The digits of the mantissa, with zeros in front so that there is one more of them than the fraction takes. -/
def paddedDigits (d : Decimal) : List Char := (Nat.toDigits 10 d.mantissa.natAbs).leftpad (d.scale + 1) '0'

/-- The written form: the mantissa itself when the scale is zero; otherwise the sign and the digits, with a point
    before the last ones, as many as the scale. -/
def text (d : Decimal) : String :=
  if d.scale = 0 then toString d.mantissa
  else
    let (whole, fraction) := d.paddedDigits.splitAt (d.paddedDigits.length - d.scale)
    d.signText ++ String.ofList whole ++ "." ++ String.ofList fraction

end Decimal
end EntityQuery
