import EntityQuery.Model.Subtyping
/-!
# `Model.TypeRules` — the questions a construction may ask about types

A construction never looks into a shape to decide whether an operand fits. It asks **type rules**: is this
a scalar, a collection, a subtype, promotable? A model with compatibility rules of its own brings its own
record of answers, and every construction follows it.

## Contents
* `TypeRules`, the questions.
* `standard` — the rules of the model itself; `exact` — no promotion, only one type; `byteAsBoolean` — a
  byte also passes for a Boolean.
-/

namespace EntityQuery

/-- The answers that constructions rely on. `isBoolean` is a question of its own, so that rules may widen it
    without touching the other primitives. -/
structure TypeRules where
  /-- A primitive or an enumeration. -/
  isScalar : EdmShape → Bool
  /-- A primitive of the given kind. -/
  isPrimitive : EdmShape → Primitive → Bool
  /-- What conditions may be made of. -/
  isBoolean : EdmShape → Bool
  isCollection : EdmShape → Bool
  isEntity : EdmShape → Bool
  isReference : EdmShape → Bool
  isRow : EdmShape → Bool
  /-- An entity, a complex type, a row or a relationship. -/
  isStructural : EdmShape → Bool
  /-- The two shapes are of one type. -/
  equals : EdmShape → EdmShape → Bool
  /-- The first shape is a strict subtype of the second. -/
  isSubtypeOf : EdmShape → EdmShape → Bool
  /-- A value of the first shape may stand where the second is expected. -/
  promotes : EdmShape → EdmShape → Bool
  /-- The primitive kind of a scalar; for an enumeration, the kind that carries it. -/
  carrier? : EdmShape → Option Primitive
  /-- The entity a reference points at. -/
  referenceTarget? : EdmShape → Option Entity
  /-- The element type of a collection. -/
  element? : EdmShape → Option TypeUse

namespace Shape

/-- The kind of a primitive shape, and the carrier of an enumeration. -/
def carrier? : EdmShape → Option Primitive
  | primitive k => some k
  | enumeration e => some e.underlying
  | _ => none

/-- The entity a reference shape points at. -/
def referenceTarget? : EdmShape → Option Entity
  | reference e => some e
  | _ => none

/-- The element type of a collection shape. -/
def element? : EdmShape → Option TypeUse
  | collection t => some t
  | _ => none

/-- Whether a shape is the primitive of a kind. -/
def isPrimitive : EdmShape → Primitive → Bool
  | primitive k, kind => k == kind
  | _, _ => false

/-- Whether a shape has members: an entity, a complex type, a row or a relationship. -/
def isStructural : EdmShape → Bool
  | entity _ | complex _ | row _ | relationship _ => true
  | _ => false

end Shape

namespace TypeRules

/-- The rules of the model itself. -/
def standard : TypeRules where
  isScalar s := s matches .primitive _ | .enumeration _
  isPrimitive := Shape.isPrimitive
  isBoolean s := s.isPrimitive .boolean
  isCollection s := s matches .collection _
  isEntity s := s matches .entity _
  isReference s := s matches .reference _
  isRow s := s matches .row _
  isStructural := Shape.isStructural
  equals := Shape.equals
  isSubtypeOf := Shape.isSubtypeOf
  promotes := Shape.promotesTo
  carrier? := Shape.carrier?
  referenceTarget? := Shape.referenceTarget?
  element? := Shape.element?

/-- The rules under which nothing is promoted: a value stands only where its own type is expected. -/
def exact : TypeRules := { standard with promotes := Shape.equals }

/-- The rules under which a byte also counts as a Boolean. -/
def byteAsBoolean : TypeRules :=
  { standard with
    isPrimitive := fun s k => s.isPrimitive k || (k == .boolean && s.isPrimitive .byte)
    isBoolean := fun s => s.isPrimitive .boolean || s.isPrimitive .byte }

/-- Under the standard rules a scalar is what has a carrier. -/
theorem standard_isScalar_iff {s : EdmShape} :
    standard.isScalar s = true ↔ (standard.carrier? s).isSome = true := by
  cases s <;> simp [standard, Shape.carrier?]

theorem standard_element?_eq_some_iff {s : EdmShape} {t : TypeUse} :
    standard.element? s = some t ↔ s = .collection t := by
  cases s <;> simp [standard, Shape.element?]

theorem standard_referenceTarget?_eq_some_iff {s : EdmShape} {e : Entity} :
    standard.referenceTarget? s = some e ↔ s = .reference e := by
  cases s <;> simp [standard, Shape.referenceTarget?]

end TypeRules
end EntityQuery
