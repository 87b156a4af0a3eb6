/-!
# `Model.Primitive` — the primitive kinds and numeric promotion

The twelve scalar kinds every model knows. A value of one numeric kind may stand where a wider one is
expected: `promotesTo` is that table, and it is reflexive by definition. Read as an order it is the order of
**widths** (`promotesTo_iff`), which is why promotion composes and is antisymmetric.
-/

namespace EntityQuery

/-- A primitive scalar kind. -/
inductive Primitive where
  | binary | boolean | byte | decimal | double | guid | single | sbyte | int16 | int32 | int64 | string
deriving DecidableEq

namespace Primitive

/-- Every kind, in the order of its declaration. -/
def all : List Primitive :=
  [binary, boolean, byte, decimal, double, guid, single, sbyte, int16, int32, int64, string]

/-- The simple name of a kind. -/
def simpleName : Primitive → String
  | binary => "Binary"
  | boolean => "Boolean"
  | byte => "Byte"
  | decimal => "Decimal"
  | double => "Double"
  | guid => "Guid"
  | single => "Single"
  | sbyte => "SByte"
  | int16 => "Int16"
  | int32 => "Int32"
  | int64 => "Int64"
  | string => "String"

/-- The full name of a kind: its simple name in the namespace `Edm`. -/
def name (k : Primitive) : String := "Edm." ++ k.simpleName

/-- The kind with a given simple name. -/
def ofSimpleName? (n : String) : Option Primitive := all.find? (·.simpleName == n)

/-- Whether values of the kind can carry an enumeration. -/
def isIntegral : Primitive → Bool
  | byte | sbyte | int16 | int32 | int64 => true
  | _ => false

/-- Whether values of the kind are numbers. -/
def isNumeric : Primitive → Bool
  | byte | sbyte | int16 | int32 | int64 | decimal | single | double => true
  | _ => false

/-- Whether a value of the first kind may stand where the second is expected. A signed or unsigned byte
    widens to every larger number, an integer to every longer integer and every fraction, a decimal to both
    floating kinds and a single to a double; every kind promotes to itself. -/
def promotesTo (source goal : Primitive) : Bool :=
  source == goal ||
    match source, goal with
    | byte, int16 | byte, int32 | byte, int64 | byte, decimal | byte, single | byte, double => true
    | sbyte, int16 | sbyte, int32 | sbyte, int64 | sbyte, decimal | sbyte, single | sbyte, double => true
    | int16, int32 | int16, int64 | int16, decimal | int16, single | int16, double => true
    | int32, int64 | int32, decimal | int32, single | int32, double => true
    | int64, decimal | int64, single | int64, double => true
    | decimal, single | decimal, double => true
    | single, double => true
    | _, _ => false

/-- How far up the numeric ladder a kind stands; the kinds off the ladder stand at the bottom. -/
def width : Primitive → Nat
  | int16 => 1
  | int32 => 2
  | int64 => 3
  | decimal => 4
  | single => 5
  | double => 6
  | _ => 0

@[simp] theorem promotesTo_self (k : Primitive) : k.promotesTo k = true := by cases k <;> rfl

/-- **Promotion is the order of widths.** Different kinds promote exactly when the first is a number kind
    and the second is wider. -/
theorem promotesTo_iff {a b : Primitive} :
    a.promotesTo b = true ↔ a = b ∨ (a.isNumeric = true ∧ a.width < b.width) := by
  cases a <;> cases b <;> decide

/-- **Promotion composes.** -/
theorem promotesTo_trans {a b c : Primitive} (h : a.promotesTo b = true) (k : b.promotesTo c = true) :
    a.promotesTo c = true := by
  rw [promotesTo_iff] at *
  rcases h with rfl | ⟨ha, hab⟩
  · exact k
  · rcases k with rfl | ⟨_, hbc⟩
    · exact .inr ⟨ha, hab⟩
    · exact .inr ⟨ha, Nat.lt_trans hab hbc⟩

/-- **Promotion is antisymmetric.** -/
theorem eq_of_promotesTo {a b : Primitive} (h : a.promotesTo b = true) (k : b.promotesTo a = true) :
    a = b := by
  rw [promotesTo_iff] at *
  rcases h with rfl | ⟨_, hab⟩
  · rfl
  · rcases k with rfl | ⟨_, hba⟩
    · rfl
    · exact absurd hab (Nat.lt_asymm hba)

end Primitive
end EntityQuery
