import EntityQuery.Handle
import EntityQuery.Model.Entity
/-!
# `Model.Relationship` — relationships and what their ends declare

A relationship joins entity types through named ends, each with a multiplicity. Relationships are told
apart by identity, never by name: two relationships of equal name and equal ends are two.
-/

namespace EntityQuery

/-- How many instances may stand at one end of a relationship. -/
inductive Multiplicity where
  | one | zeroOrOne | many
deriving DecidableEq

namespace Multiplicity

/-- The sign of a multiplicity. -/
def text : Multiplicity → String
  | one => "1"
  | zeroOrOne => "0..1"
  | many => "*"

/-- Whether at most one instance may stand at the end. -/
def isAtMostOne : Multiplicity → Bool
  | one | zeroOrOne => true
  | many => false

/-- The multiplicity of a sign. -/
def ofText? (s : String) : Option Multiplicity := [one, zeroOrOne, many].find? (·.text == s)

end Multiplicity

/-- What a relationship declares about one of its ends. -/
structure EndDecl (τ : Type) where
  name : String
  entity : EntityType τ
  multiplicity : Multiplicity

/-- A relationship: its identity, its name and its ends in order. -/
structure RelationshipType (τ : Type) where
  id : Handle
  name : QualifiedName
  ends : List (EndDecl τ)
  /-- The relationship itself, and those that can be reached through the entities it joins. -/
  kept : List Handle

namespace RelationshipType

variable {τ : Type}

/-- Declares a relationship between entities. -/
def declare (id : Handle) (name : QualifiedName) (ends : List (EndDecl τ)) : RelationshipType τ :=
  ⟨id, name, ends, (id :: ends.flatMap (·.entity.kept)).eraseDups⟩

/-- The full name of the relationship. -/
def fullName (r : RelationshipType τ) : String := r.name.text

/-- The position of the first end of a name. -/
def endIndex? (r : RelationshipType τ) (name : String) : Option (Fin r.ends.length) :=
  r.ends.findFinIdx? (·.name == name)

theorem name_of_endIndex?_eq_some {r : RelationshipType τ} {n : String} {i : Fin r.ends.length}
    (h : r.endIndex? n = some i) : r.ends[i].name = n := by
  simp only [endIndex?, List.findFinIdx?_eq_some_iff] at h
  simpa using h.1

end RelationshipType
end EntityQuery
