import EntityQuery.Handle
import EntityQuery.Model.Name
/-!
# `Model.Entity` — properties, entity types and complex types

An entity type declares properties, some of them keys, and may derive from another entity type. Here an
entity type **is its base chain**: its own declaration, and those of its bases from the nearest to the
root. Everything inherited is then read off one list, in the direction the question asks for: all
properties from the root down, a property by name from the most derived type up, the key from the nearest
type that declares one.

The kinds of type are mutually dependent (a property has a type, and a type may be an entity), so the
declarations below are parametric in the type `τ` of properties; `Model.Basic` closes the circle.

A declaration can be used in many places, and what is used in it again in many. So what lies below a
declaration is noted in it when it is made, and is never searched for again: each declaration lists the
relationships it **keeps**, those that can be reached through its properties.

## Contents
* `Property`, `EntityProperty`, `EntityDecl`, `EntityType`, `ComplexType`, and `declare`, which makes a
  declaration with its note.
* `EntityType.properties`, `property?`, `keyMembers`, `derivesFrom`.
-/

namespace EntityQuery

/-- A named, typed member of a structural type. -/
structure Property (τ : Type) where
  name : String
  type : τ

/-- A property of an entity type: one that is part of the key, or not. -/
structure EntityProperty (τ : Type) extends Property τ where
  isKey : Bool

/-- What one entity type declares itself, apart from what it inherits. -/
structure EntityDecl (τ : Type) where
  name : QualifiedName
  declared : List (EntityProperty τ)
  /-- The relationships that can be reached through the declared properties. -/
  kept : List Handle

namespace EntityDecl

variable {τ : Type}

/-- Declares properties; `keptBy` says which relationships the type of a property keeps. -/
def declare (keptBy : τ → List Handle) (name : QualifiedName) (declared : List (EntityProperty τ)) :
    EntityDecl τ :=
  ⟨name, declared, (declared.flatMap fun p => keptBy p.type).eraseDups⟩

/-- The declared properties, in order, without the key marks. -/
def properties (d : EntityDecl τ) : List (Property τ) := d.declared.map (·.toProperty)

/-- The names of the declared key properties, in order. -/
def keyNames (d : EntityDecl τ) : List String := (d.declared.filter (·.isKey)).map (·.name)

/-- The first declared property of a name. -/
def property? (d : EntityDecl τ) (name : String) : Option (Property τ) :=
  d.properties.find? (·.name == name)

/-- A declared key name is the name of a declared property. -/
theorem exists_property_of_mem_keyNames {d : EntityDecl τ} {n : String} (h : n ∈ d.keyNames) :
    ∃ p ∈ d.properties, p.name = n := by
  simp only [keyNames, List.mem_map, List.mem_filter] at h
  obtain ⟨p, ⟨hp, _⟩, rfl⟩ := h
  exact ⟨p.toProperty, List.mem_map_of_mem hp, rfl⟩

theorem property?_isSome_iff {d : EntityDecl τ} {n : String} :
    (d.property? n).isSome = true ↔ ∃ p ∈ d.properties, p.name = n := by
  simp [property?, List.find?_isSome]

end EntityDecl

/-- An entity type: its own declaration, and the declarations of its bases from the nearest to the root. -/
structure EntityType (τ : Type) where
  own : EntityDecl τ
  bases : List (EntityDecl τ)

namespace EntityType

variable {τ : Type}

/-- An entity type without a base. -/
def root (d : EntityDecl τ) : EntityType τ := ⟨d, []⟩

/-- The declarations of the type, from its own to the root's. -/
def chain (e : EntityType τ) : List (EntityDecl τ) := e.own :: e.bases

/-- An entity type that derives from `base`. -/
def derive (d : EntityDecl τ) (base : EntityType τ) : EntityType τ := ⟨d, base.chain⟩

/-- The name of the type. -/
def name (e : EntityType τ) : QualifiedName := e.own.name

/-- The full name of the type. -/
def fullName (e : EntityType τ) : String := e.own.name.text

/-- The type it derives from directly. -/
def base? (e : EntityType τ) : Option (EntityType τ) :=
  match e.bases with
  | [] => none
  -- what follows the nearest base on the chain are the bases of that base
  | d :: ds => some ⟨d, ds⟩

/-- All properties, those of the root first. -/
def properties (e : EntityType τ) : List (Property τ) := e.chain.reverse.flatMap (·.properties)

/-- The property of a name: the first of that name in the most derived type that declares one. -/
def property? (e : EntityType τ) (name : String) : Option (Property τ) :=
  e.chain.findSome? (·.property? name)

/-- The key: the key names of the nearest type that declares any. -/
def keyMembers (e : EntityType τ) : List String :=
  ((e.chain.map (·.keyNames)).find? (!·.isEmpty)).getD []

/-- The relationships that the declarations on the chain keep. -/
def kept (e : EntityType τ) : List Handle := e.chain.flatMap (·.kept)

/-- Whether `other` stands on the base chain, compared by full name. A type is not among its own bases. -/
def derivesFrom (e other : EntityType τ) : Bool := e.bases.any (·.name.same other.name)

@[simp] theorem chain_root (d : EntityDecl τ) : (root d).chain = [d] := rfl

@[simp] theorem chain_derive (d : EntityDecl τ) (b : EntityType τ) :
    (derive d b).chain = d :: b.chain := rfl

@[simp] theorem base?_derive (d : EntityDecl τ) (b : EntityType τ) : (derive d b).base? = some b := rfl

@[simp] theorem base?_root (d : EntityDecl τ) : (root d).base? = none := rfl

/-- A derived type lists what its base lists, then its own properties. -/
theorem properties_derive (d : EntityDecl τ) (b : EntityType τ) :
    (derive d b).properties = b.properties ++ d.properties := by
  simp [properties, List.flatMap_append]

theorem property?_derive (d : EntityDecl τ) (b : EntityType τ) (n : String) :
    (derive d b).property? n = (d.property? n).or (b.property? n) := by
  unfold property?
  rw [chain_derive, List.findSome?_cons]
  cases d.property? n <;> rfl

theorem keyMembers_derive (d : EntityDecl τ) (b : EntityType τ) :
    (derive d b).keyMembers = if d.keyNames.isEmpty then b.keyMembers else d.keyNames := by
  unfold keyMembers
  rw [chain_derive, List.map_cons, List.find?_cons]
  cases d.keyNames.isEmpty <;> rfl

end EntityType

/-- A named structural type without key and without base. -/
structure ComplexType (τ : Type) where
  name : QualifiedName
  properties : List (Property τ)
  /-- The relationships that can be reached through the properties. -/
  kept : List Handle

/-- Declares a complex type; `keptBy` says which relationships the type of a property keeps. -/
def ComplexType.declare {τ : Type} (keptBy : τ → List Handle) (name : QualifiedName)
    (properties : List (Property τ)) : ComplexType τ :=
  ⟨name, properties, (properties.flatMap fun p => keptBy p.type).eraseDups⟩

/-- The first property of a name in a list of properties, such as the columns of a row. -/
def findProperty? {τ : Type} (properties : List (Property τ)) (name : String) : Option (Property τ) :=
  properties.find? (·.name == name)

end EntityQuery
