import EntityQuery.Model.Primitive
import EntityQuery.Model.Relationship
import EntityQuery.Rejection
/-!
# `Model.Basic` — types and uses of types

A **shape** says what a type is: a primitive, an enumeration, an entity, a complex type, a row, a
relationship, a collection, or a reference to an entity. A **type use** is one use of a shape, with an
identity of its own: a property, a variable and an expression each hold a type use, and some rules ask
whether two of them hold the very same one.

Properties have type uses, so shapes and uses are mutually dependent. `Shape` is parametric in the type of
uses, and `TypeUse` closes the circle.

## Contents
* `EnumType` and `EnumType.make`, the one rejection of the model.
* `Shape`, `TypeUse`, `EdmShape`.
* `structuralProperty?`, the members an instance of a shape shows.
* `Shape.parts` and `Shape.inductionOnParts`, the way facts about all types are proved.
* `TypeUse.text`, the written form of a type.
-/

namespace EntityQuery

/-! ## Enumerations -/

/-- A named value of an enumeration. -/
structure EnumMember where
  name : String
  value : Int64

/-- An enumeration: named values carried by an integral primitive kind. -/
structure EnumType where
  name : QualifiedName
  underlying : Primitive
  members : List EnumMember
  integral : underlying.isIntegral = true

namespace EnumType

/-- Declares an enumeration; the carrier must be integral. -/
def make (name : QualifiedName) (underlying : Primitive) (members : List EnumMember) :
    Except Rejection EnumType :=
  if h : underlying.isIntegral = true then .ok ⟨name, underlying, members, h⟩
  else .error (.unexpectedType .underlying .integralPrimitive underlying.name)

/-- The first member of a name. -/
def member? (e : EnumType) (name : String) : Option EnumMember := e.members.find? (·.name == name)

/-- The full name of the enumeration. -/
def fullName (e : EnumType) : String := e.name.text

end EnumType

/-! ## Shapes and uses -/

/-- What a type is, over the type `τ` of the uses that its parts hold. -/
inductive Shape (τ : Type) where
  | primitive (kind : Primitive)
  | enumeration (type : EnumType)
  | entity (type : EntityType τ)
  | complex (type : ComplexType τ)
  | row (columns : List (Property τ))
  | relationship (type : RelationshipType τ)
  | collection (element : τ)
  | reference (target : EntityType τ)

/-- One use of a type: its identity and the shape of the type. -/
structure TypeUse where
  handle : Handle
  shape : Shape TypeUse

/-- The shape of a type, its parts being type uses. -/
abbrev EdmShape := Shape TypeUse

/-- An entity type whose properties hold type uses. -/
abbrev Entity := EntityType TypeUse

/-- A relationship between entities. -/
abbrev Relationship := RelationshipType TypeUse

namespace Shape

/-- The structural property that instances of the shape show under a name: entities, complex values and
    rows have properties, nothing else has. -/
def structuralProperty? {τ : Type} (s : Shape τ) (name : String) : Option (Property τ) :=
  match s with
  | entity e => e.property? name
  | complex c => findProperty? c.properties name
  | row columns => findProperty? columns name
  | _ => none

end Shape

/-! ## Parts

The parts of a shape are the types it is built from in its written form: the columns of a row and the
element of a collection. Named types have no parts; what they declare is looked up, not compared. -/

namespace Shape

/-- The types a shape is built from. -/
def parts : EdmShape → List TypeUse
  | row columns => columns.map (·.type)
  | collection element => [element]
  | _ => []

theorem sizeOf_lt_of_mem_parts {s : EdmShape} {t : TypeUse} (h : t ∈ s.parts) :
    sizeOf t.shape < sizeOf s := by
  cases s with
  | row columns =>
    simp only [parts, List.mem_map] at h
    obtain ⟨⟨n, ⟨k, s⟩⟩, hp, rfl⟩ := h
    have := List.sizeOf_lt_of_mem hp
    simp only [Property.mk.sizeOf_spec, TypeUse.mk.sizeOf_spec, row.sizeOf_spec] at *
    omega
  | collection element =>
    simp only [parts, List.mem_singleton] at h
    subst h
    obtain ⟨k, s⟩ := t
    simp only [TypeUse.mk.sizeOf_spec, collection.sizeOf_spec]
    omega
  | _ => simp [parts] at h

/-- **Induction on the parts of a type.** What holds of a shape whenever it holds of its parts holds of
    every shape. -/
theorem inductionOnParts {P : EdmShape → Prop} (step : ∀ s, (∀ t ∈ s.parts, P t.shape) → P s) (s : EdmShape) :
    P s :=
  step s fun _ _ => inductionOnParts step _
termination_by sizeOf s
decreasing_by exact sizeOf_lt_of_mem_parts ‹_›

end Shape

/-! ## Written form -/

mutual

/-- The written form of a type: full names for what is named, `Row(…)`, `Collection(…)` and `Ref(…)` around
    their parts. -/
def TypeUse.text : TypeUse → String
  | ⟨_, shape⟩ => shape.text
termination_by structural t => t

/-- The written form of a shape. -/
def Shape.text : Shape TypeUse → String
  | .primitive k => k.name
  | .enumeration e => e.fullName
  | .entity e => e.fullName
  | .complex c => c.name.text
  | .row columns => "Row(" ++ ", ".intercalate (columnTexts columns) ++ ")"
  | .relationship r => r.fullName
  | .collection element => "Collection(" ++ element.text ++ ")"
  | .reference e => "Ref(" ++ e.fullName ++ ")"
termination_by structural s => s

/-- The written columns of a row, each as name, blank, type. -/
def columnTexts : List (Property TypeUse) → List String
  | [] => []
  | ⟨name, type⟩ :: columns => (name ++ " " ++ type.text) :: columnTexts columns
termination_by structural columns => columns

end

theorem TypeUse.text_eq (t : TypeUse) : t.text = t.shape.text := by
  obtain ⟨h, s⟩ := t
  rfl

theorem columnTexts_eq_map (columns : List (Property TypeUse)) :
    columnTexts columns = columns.map (fun p => p.name ++ " " ++ p.type.text) := by
  induction columns with
  | nil => rfl
  | cons p ps ih => rw [columnTexts, ih]; rfl

end EntityQuery
