import EntityQuery.Literal.Decimal
import EntityQuery.Literal.Floating
import EntityQuery.Model.Primitive
/-!
# `Literal.Basic` — constant values

A literal is a value of one primitive kind; an enumeration's constants carry its underlying integer. Every
literal has a written form, and apart from the floating kinds the form determines the value within its
kind.

## Contents
* `Literal`, with `kind`, `text` and `equal`.
* `LiteralSource`, a literal before its scale is checked.
* `Bytes.text`, `Guid.text`, the written forms of byte strings and identifiers.
-/

namespace EntityQuery

/-! ## Byte strings and identifiers -/

/-- A string of bytes. -/
abbrev Bytes := List UInt8

namespace Bytes

/-- The written form of a byte string: `0x`, then two upper-case digits for each byte. -/
def text (bytes : Bytes) : String :=
  "0x" ++ String.ofList (bytes.flatMap fun b => (fixedDigits 16 2 b.toNat).map Char.toUpper)

/-- A copy in which the byte at `index` is complemented; the same bytes when there is none. -/
def complementAt (bytes : Bytes) (index : Nat) : Bytes := bytes.modify index (~~~ ·)

end Bytes

/-- A globally unique identifier of 128 bits. -/
abbrev Guid := BitVec 128

namespace Guid

/-- The lengths of the groups of digits. -/
def groupLengths : List Nat := [8, 4, 4, 4, 12]

/-- The written form of an identifier: its 32 lower-case digits in five groups joined by hyphens. -/
def text (g : Guid) : String :=
  "-".intercalate ((groupsOf groupLengths (fixedDigits 16 32 g.toNat)).map String.ofList)

end Guid

/-! ## Literals -/

/-- A constant value of a primitive kind; the floating kinds by their bits. -/
inductive Literal where
  | binary (value : Bytes)
  | boolean (value : Bool)
  | byte (value : UInt8)
  | decimal (value : Decimal)
  | double (bits : UInt64)
  | guid (value : Guid)
  | single (bits : UInt32)
  | sbyte (value : Int8)
  | int16 (value : Int16)
  | int32 (value : Int32)
  | int64 (value : Int64)
  | string (value : String)

namespace Literal

/-- The kind of a literal. -/
def kind : Literal → Primitive
  | binary _ => .binary
  | boolean _ => .boolean
  | byte _ => .byte
  | decimal _ => .decimal
  | double _ => .double
  | guid _ => .guid
  | single _ => .single
  | sbyte _ => .sbyte
  | int16 _ => .int16
  | int32 _ => .int32
  | int64 _ => .int64
  | string _ => .string

/-- The written form of a literal. A string stands between quotes as it is, with nothing escaped. -/
def text : Literal → String
  | binary v => v.text
  | boolean v => if v then "true" else "false"
  | byte v => toString v.toNat
  | decimal v => v.text
  | double v => (BinaryFormat.double.decode v.toNat).text
  | guid v => v.text
  | single v => (BinaryFormat.single.decode v.toNat).text
  | sbyte v => toString v.toInt
  | int16 v => toString v.toInt
  | int32 v => toString v.toInt
  | int64 v => toString v.toInt
  | string v => "'" ++ v ++ "'"

/-- Whether two literals are equal: of one kind and equal in it, the floating kinds as numbers. -/
def equal : Literal → Literal → Bool
  | binary a, binary b => a == b
  | boolean a, boolean b => a == b
  | byte a, byte b => a == b
  | decimal a, decimal b => a == b
  | double a, double b => BinaryFormat.double.equal a.toNat b.toNat
  | guid a, guid b => a == b
  | single a, single b => BinaryFormat.single.equal a.toNat b.toNat
  | sbyte a, sbyte b => a == b
  | int16 a, int16 b => a == b
  | int32 a, int32 b => a == b
  | int64 a, int64 b => a == b
  | string a, string b => a == b
  | _, _ => false

end Literal

/-- A literal as it is asked for: the scale of a decimal is still to be checked. -/
inductive LiteralSource where
  | decimal (mantissa : Int) (scale : Nat)
  | literal (value : Literal)

/-- The literal that is asked for. -/
def LiteralSource.evaluate : LiteralSource → Except Rejection Literal
  | decimal mantissa scale => (Decimal.make mantissa scale).map .decimal
  | literal value => .ok value

end EntityQuery
