import EntityQuery.Text.Shortest
/-!
# `Literal.Floating` — binary floating-point values by their bits

A floating-point literal is kept as its bits. What the bits stand for is decoded once, for any interchange
format: a sign, an exponent field and a fraction field. Text and equality are read off the decoded value.

## Contents
* `BinaryFormat`, with `double` and `single`; `FloatValue`, what bits stand for; `BinaryFormat.decode`.
* `FloatValue.text` — the shortest digits that read back, never with an exponent.
* `BinaryFormat.equal` — numeric equality: a NaN differs from everything, the two zeros are equal.
-/

namespace EntityQuery

/-- What the bits of a floating-point format stand for. -/
inductive FloatValue where
  | nan
  | infinite (negative : Bool)
  | zero (negative : Bool)
  | finite (negative : Bool) (magnitude : BinaryNumber)

/-- The widths of the two fields of a binary interchange format; one sign bit stands before them. -/
structure BinaryFormat where
  fractionBits : Nat
  exponentBits : Nat

namespace BinaryFormat

/-- The format of 64 bits. -/
def double : BinaryFormat := ⟨52, 11⟩

/-- The format of 32 bits. -/
def single : BinaryFormat := ⟨23, 8⟩

/-- The exponent of the unit in the last place of the smallest numbers. -/
def leastExponent (f : BinaryFormat) : Int := 2 - Nat.pow 2 (f.exponentBits - 1) - f.fractionBits

/-- What `bits` stand for. An exponent field of ones is for infinities and NaNs, one of zeros for numbers
    without the hidden leading bit. The neighbour below a power of two is half as far away as the one above,
    except at the bottom of the range. -/
def decode (f : BinaryFormat) (bits : Nat) : FloatValue :=
  let fraction := bits % Nat.pow 2 f.fractionBits
  let exponent := bits / Nat.pow 2 f.fractionBits % Nat.pow 2 f.exponentBits
  let negative := bits / Nat.pow 2 (f.fractionBits + f.exponentBits) % 2 == 1
  if exponent == Nat.pow 2 f.exponentBits - 1 then
    if fraction == 0 then .infinite negative else .nan
  else if exponent == 0 then
    -- no hidden bit, and the neighbours on both sides are equally far away
    if fraction == 0 then .zero negative else .finite negative ⟨fraction, f.leastExponent, false⟩
  else
    .finite negative
      ⟨Nat.pow 2 f.fractionBits + fraction, f.leastExponent + (exponent - 1), fraction == 0 && 1 < exponent⟩

/-- Whether two bit patterns stand for equal numbers. -/
def equal (f : BinaryFormat) (a b : Nat) : Bool :=
  match f.decode a, f.decode b with
  | .nan, _ => false
  | _, .nan => false
  -- zeros are the only equal numbers of different bits
  | .zero _, .zero _ => true
  | _, _ => a == b

end BinaryFormat

/-- The text of a floating-point value. -/
def FloatValue.text : FloatValue → String
  | nan => "NaN"
  | infinite negative => if negative then "-inf" else "inf"
  | zero negative => if negative then "-0" else "0"
  | finite negative v =>
      let (d, k) := v.shortest
      (if negative then "-" else "") ++ positionalText d k

end EntityQuery
