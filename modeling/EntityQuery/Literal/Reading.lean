import EntityQuery.Literal.Basic
import EntityQuery.Text.Numeral
/-!
# `Literal.Reading` — literals from their written form

What is written of a literal can be read again, once its kind is known. Each kind is read in its own way: digits
are taken for the number they stand for, the marks that set them apart are passed over, and the quotes around a
string are taken off. Integers are read as decimals without a fraction. A text that none of the literals of the
kind is written as is not read at all, so reading asks of its result to be written as the text.

The floating kinds are not read. Their texts are the shortest that tell numbers apart, but one text stands for
every NaN.

## Contents
* `Bytes.ofDigits`, `Guid.ofDigits`, `Decimal.ofText?` — the readers of the kinds with a layout of their own.
* `Literal.integer?`, `Literal.interpret?`, `Literal.ofText?`.
-/

namespace EntityQuery

/-- The bytes that digits stand for, two for each byte. -/
def Bytes.ofDigits : List Char → Bytes
  | high :: low :: rest => UInt8.ofNat (numeralValue 16 [high, low]) :: Bytes.ofDigits rest
  | _ => []

theorem Bytes.ofDigits_cons_cons (high low : Char) (rest : List Char) :
    Bytes.ofDigits (high :: low :: rest) =
      UInt8.ofNat (numeralValue 16 [high, low]) :: Bytes.ofDigits rest := rfl

/-- The identifier that digits stand for. -/
def Guid.ofDigits (digits : List Char) : Guid := BitVec.ofNat 128 (numeralValue 16 digits)

namespace Decimal

/-- The decimal of digits before and after the point. -/
def ofDigits? (negative : Bool) (whole fraction : List Char) : Option Decimal :=
  let magnitude := numeralValue 10 (whole ++ fraction)
  (make (if negative then -magnitude else magnitude) fraction.length).toOption

/-- The decimal of an unsigned text. -/
def ofUnsigned? (negative : Bool) (text : List Char) : Option Decimal :=
  -- the point itself belongs to neither part, and is missing when there is no fraction
  ofDigits? negative (text.takeWhile (· != '.')) ((text.dropWhile (· != '.')).drop 1)

/-- The decimal of a text with or without a sign. -/
def ofText? (text : String) : Option Decimal :=
  match text.toList with
  | '-' :: unsigned => ofUnsigned? true unsigned
  | unsigned => ofUnsigned? false unsigned

end Decimal

namespace Literal

/-- The integer of a text. -/
def integer? (text : String) : Option Int := (Decimal.ofText? text).map (·.mantissa)

/-- What a text would be as a literal of a kind, whether it is properly written or not. -/
def interpret? : Primitive → String → Option Literal
  | .binary, text => some (.binary (Bytes.ofDigits (text.toList.drop 2)))
  | .boolean, text => some (.boolean (text == "true"))
  | .byte, text => (integer? text).map (.byte ∘ UInt8.ofNat ∘ Int.toNat)
  | .decimal, text => (Decimal.ofText? text).map .decimal
  | .double, _ => none
  | .guid, text => some (.guid (Guid.ofDigits (text.toList.filter (· != '-'))))
  | .single, _ => none
  | .sbyte, text => (integer? text).map (.sbyte ∘ Int8.ofInt)
  | .int16, text => (integer? text).map (.int16 ∘ Int16.ofInt)
  | .int32, text => (integer? text).map (.int32 ∘ Int32.ofInt)
  | .int64, text => (integer? text).map (.int64 ∘ Int64.ofInt)
  | .string, text => some (.string (String.ofList (text.toList.drop 1).dropLast))

/-- **The literal of a kind that is written as a text,** if there is one. -/
def ofText? (kind : Primitive) (text : String) : Option Literal :=
  (interpret? kind text).filter fun v => v.kind == kind && v.text == text

theorem ofText?_eq_some_iff {kind : Primitive} {text : String} {v : Literal} :
    ofText? kind text = some v ↔ interpret? kind text = some v ∧ v.kind = kind ∧ v.text = text := by
  rw [ofText?, Option.filter_eq_some_iff, Bool.and_eq_true, beq_iff_eq, beq_iff_eq]

end Literal
end EntityQuery
