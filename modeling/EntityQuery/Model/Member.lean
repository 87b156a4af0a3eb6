import EntityQuery.Model.Basic
/-!
# `Model.Member` — relationship ends, navigation properties, members

A **relationship end** is a place in a relationship: the relationship and the position of the end in it.
So ends share their relationship, or are the same end, by identity and position, whatever they are called.
A **navigation property** names a walk over a relationship from one end to another. Both determine their
types, so neither stores one.

## Contents
* `RelationshipEnd` with `type`, `sameRelationship`, `sameEnd`, `isDeclaredBy`.
* `NavigationProperty` with `type`, and `NavigationProperty.make?`.
* `Member`, everything a type can declare; `Shape.member?`, what instances can be asked for.
-/

namespace EntityQuery

/-! ## Relationship ends -/

/-- One end of a relationship. -/
structure RelationshipEnd where
  relationship : Relationship
  index : Fin relationship.ends.length

namespace RelationshipEnd

/-- What the relationship declares about the end. -/
def decl (e : RelationshipEnd) : EndDecl TypeUse := e.relationship.ends[e.index]

/-- The name of the end. -/
def name (e : RelationshipEnd) : String := e.decl.name

/-- The entity that stands at the end. -/
def entity (e : RelationshipEnd) : Entity := e.decl.entity

/-- How many instances may stand at the end. -/
def multiplicity (e : RelationshipEnd) : Multiplicity := e.decl.multiplicity

/-- Whether at most one instance may stand at the end. -/
def isAtMostOne (e : RelationshipEnd) : Bool := e.multiplicity.isAtMostOne

/-- At most one instance stands at an end that is not for many. -/
theorem isAtMostOne_iff {e : RelationshipEnd} : e.isAtMostOne = true ↔ e.multiplicity ≠ .many := by
  unfold isAtMostOne
  cases e.multiplicity <;> simp [Multiplicity.isAtMostOne]

/-- The type of the end: a reference to its entity, one use for all readers of the end. -/
def type (e : RelationshipEnd) : TypeUse := ⟨e.relationship.id.child e.index, .reference e.entity⟩

/-- Whether two ends belong to the very same relationship. -/
def sameRelationship (a b : RelationshipEnd) : Bool := a.relationship.id == b.relationship.id

/-- Whether two ends are the very same end. -/
def sameEnd (a b : RelationshipEnd) : Bool := a.sameRelationship b && a.index.val == b.index.val

/-- Whether the end belongs to the very relationship `r`. -/
def isDeclaredBy (e : RelationshipEnd) (r : Relationship) : Bool := e.relationship.id == r.id

@[simp] theorem isDeclaredBy_self (e : RelationshipEnd) : e.isDeclaredBy e.relationship = true := by
  simp [isDeclaredBy]

end RelationshipEnd

/-- The first end of a name. -/
def RelationshipType.end? (r : Relationship) (name : String) : Option RelationshipEnd :=
  (r.endIndex? name).map (⟨r, ·⟩)

/-- All ends of a relationship, in order. -/
def RelationshipType.allEnds (r : Relationship) : List RelationshipEnd :=
  (List.finRange r.ends.length).map (⟨r, ·⟩)

theorem RelationshipType.end?_eq_some {r : Relationship} {n : String} {e : RelationshipEnd}
    (h : r.end? n = some e) : e.relationship = r ∧ e.name = n := by
  simp only [RelationshipType.end?, Option.map_eq_some_iff] at h
  obtain ⟨i, hi, rfl⟩ := h
  exact ⟨rfl, name_of_endIndex?_eq_some hi⟩

/-! ## Navigation properties -/

/-- A named walk over a relationship from one of its ends to another. -/
structure NavigationProperty where
  handle : Handle
  name : String
  relationship : Relationship
  fromIndex : Fin relationship.ends.length
  toIndex : Fin relationship.ends.length

namespace NavigationProperty

/-- The end the walk starts at. -/
def fromEnd (n : NavigationProperty) : RelationshipEnd := ⟨n.relationship, n.fromIndex⟩

/-- The end the walk leads to. -/
def toEnd (n : NavigationProperty) : RelationshipEnd := ⟨n.relationship, n.toIndex⟩

/-- The type of the property: the entity at the target end, in a collection when there may be many. -/
def type (n : NavigationProperty) : TypeUse :=
  if n.toEnd.isAtMostOne then ⟨n.handle, .entity n.toEnd.entity⟩
  else ⟨n.handle, .collection ⟨n.handle.child 0, .entity n.toEnd.entity⟩⟩

/-- The navigation property over the first ends of two names, if the relationship has such ends. -/
def make? (handle : Handle) (name : String) (relationship : Relationship) (source goal : String) :
    Option NavigationProperty := do
  let fromIndex ← relationship.endIndex? source
  let toIndex ← relationship.endIndex? goal
  return ⟨handle, name, relationship, fromIndex, toIndex⟩

end NavigationProperty

/-! ## Members -/

/-- Anything a type can declare. -/
inductive Member where
  | property (property : Property TypeUse)
  | navigation (property : NavigationProperty)
  | relationshipEnd (relEnd : RelationshipEnd)
  | enumMember (member : EnumMember)

namespace Member

/-- The name of the member. -/
def name : Member → String
  | property p => p.name
  | navigation n => n.name
  | relationshipEnd e => e.name
  | enumMember m => m.name

/-- The type of the member; a value of an enumeration has none. -/
def type? : Member → Option TypeUse
  | property p => some p.type
  | navigation n => some n.type
  | relationshipEnd e => some e.type
  | enumMember _ => none

/-- Whether an instance can be asked for the member; a value of an enumeration is not read off anything. -/
def isReadable : Member → Bool
  | property _ | navigation _ | relationshipEnd _ => true
  | enumMember _ => false

/-- The members that can be read are those that have a type. -/
theorem isReadable_eq (m : Member) : m.isReadable = m.type?.isSome := by cases m <;> rfl

/-- The kind of a readable member, by name. -/
def kindName : Member → String
  | property _ => "Property"
  | navigation _ => "NavigationProperty"
  | relationshipEnd _ => "RelationshipEnd"
  | enumMember _ => "EnumMember"

end Member

/-- The member that instances of a shape can be asked for by name: an end of a relationship, a structural
    property of anything else. -/
def Shape.member? (s : EdmShape) (name : String) : Option Member :=
  match s with
  | relationship r => (r.end? name).map .relationshipEnd
  | s => (s.structuralProperty? name).map .property

/-- A member looked up by name can be read. -/
theorem Shape.isReadable_of_member?_eq_some {s : EdmShape} {n : String} {m : Member}
    (h : s.member? n = some m) : m.isReadable = true := by
  cases s <;> simp only [Shape.member?, Option.map_eq_some_iff] at h <;>
    (obtain ⟨_, _, rfl⟩ := h; rfl)

end EntityQuery
