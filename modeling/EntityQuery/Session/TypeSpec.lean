import EntityQuery.Session.Value
/-!
# `Session.TypeSpec` — types asked for by name

A type is asked for either as something new, built from kinds, model data and other types, or as the type
use that something held already has. What is new gets identities inside the place it is asked for at; what
is held keeps its own.
-/

namespace EntityQuery

/-- A type asked for. The names are those of held values. -/
inductive TypeSpec where
  | primitive (kind : Primitive)
  | enumeration (name : String)
  | entity (name : String)
  | complex (name : String)
  | relationship (name : String)
  | reference (name : String)
  | collection (element : TypeSpec)
  | row (columns : List (Property TypeSpec))
  /-- The type held under a name. -/
  | held (name : String)
  /-- The type of an expression. -/
  | typeOf (name : String)
  /-- The type of a binding's variable. -/
  | elementOf (name : String)
  /-- The declared return type of a function. -/
  | returnOf (name : String)
  /-- The type of a structural property of a type. -/
  | propertyOf (object : TypeSpec) (name : String)

mutual

/-- The type use that is asked for, new parts at the place `h`. -/
def TypeSpec.resolve (s : Session) (h : Handle) : TypeSpec → Attempt TypeUse
  | .primitive k => return ⟨h, .primitive k⟩
  | .enumeration name => do return ⟨h, .enumeration (← s.enumeration name)⟩
  | .entity name => do return ⟨h, .entity (← s.entity name)⟩
  | .complex name => do return ⟨h, .complex (← s.complex name)⟩
  | .relationship name => do return ⟨h, .relationship (← s.relationship name)⟩
  | .reference name => do return ⟨h, .reference (← s.entity name)⟩
  | .collection element => do return ⟨h, .collection (← element.resolve s (h.child 0))⟩
  | .row columns => do return ⟨h, .row (← resolveColumns s h 0 columns)⟩
  -- what is held already keeps its identity
  | .held name => s.type name
  | .typeOf name => do return (← s.expression name).type
  | .elementOf name => do return (← s.binding name).element.type
  | .returnOf name => do resolved (← s.function name).returnType?
  | .propertyOf object name => do
    let object ← object.resolve s (h.child 0)
    let property ← resolved (object.shape.structuralProperty? name)
    return property.type
termination_by structural t => t

/-- The columns that are asked for, from the `i`-th place inside `h` on. -/
def resolveColumns (s : Session) (h : Handle) (i : Nat) :
    List (Property TypeSpec) → Attempt (List (Property TypeUse))
  | [] => return []
  | ⟨name, type⟩ :: columns => do
    let type ← type.resolve s (h.child i)
    let columns ← resolveColumns s h (i + 1) columns
    return ⟨name, type⟩ :: columns
termination_by structural columns => columns

end

/-- The properties of an entity that are asked for, from the `i`-th place inside `h` on. -/
def resolveEntityProperties (s : Session) (h : Handle) (i : Nat) :
    List (EntityProperty TypeSpec) → Attempt (List (EntityProperty TypeUse))
  | [] => return []
  | ⟨⟨name, type⟩, isKey⟩ :: properties => do
    let type ← type.resolve s (h.child i)
    let properties ← resolveEntityProperties s h (i + 1) properties
    return ⟨⟨name, type⟩, isKey⟩ :: properties

end EntityQuery
