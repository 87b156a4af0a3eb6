import EntityQuery.Model.Declaration
import EntityQuery.Model.Member
/-!
# `Model.Mention` — which relationships a model value keeps

A value **mentions** a relationship when the relationship can be reached through it: it is the
relationship, or one of the types, entities or relationships it is made of mentions it. An entity mentions
what its properties mention, inherited ones included; a relationship mentions itself and what its entities
mention. A relationship end knows its relationship only by identity, so it mentions what its entity
mentions and not the relationship that declares it.

What a declared type keeps is noted in its declaration, so the question goes down into rows and collections
and stops at the first declared type. That the notes say what a search of everything would find is the
subject of `Session.Ownership`.

## Contents
* `TypeUse.kept`, `Shape.kept` — the relationships that a type keeps.
* `TypeUse.mentions`, `Entity` and `Relationship` variants — whether one relationship is among them.
* `Member.mentions`, `FunctionDecl.mentions`, `Extent.mentions`.
-/

namespace EntityQuery

/-! ## Types -/

mutual

/-- The relationships that can be reached through a type. -/
def TypeUse.kept : TypeUse → List Handle
  | ⟨_, s⟩ => s.kept
termination_by structural t => t

/-- The relationships that can be reached through a shape: those of its parts, or those that the declaration
    of a named type notes. -/
def Shape.kept : Shape TypeUse → List Handle
  | .primitive _ => []
  | .enumeration _ => []
  | .entity e => e.kept
  | .complex c => c.kept
  | .row columns => columnsKept columns
  | .relationship r => r.kept
  | .collection t => t.kept
  | .reference e => e.kept
termination_by structural s => s

/-- The relationships that can be reached through the columns of a row. -/
def columnsKept : List (Property TypeUse) → List Handle
  | [] => []
  | ⟨_, type⟩ :: columns => type.kept ++ columnsKept columns
termination_by structural columns => columns

end

theorem TypeUse.kept_eq (t : TypeUse) : t.kept = t.shape.kept := by
  obtain ⟨_, s⟩ := t
  rw [TypeUse.kept]

theorem columnsKept_eq_flatMap (columns : List (Property TypeUse)) :
    columnsKept columns = columns.flatMap (·.type.kept) := by
  induction columns with
  | nil => rfl
  | cons p ps ih => rw [columnsKept, ih]; rfl

/-- Whether the relationship `id` can be reached through a type. -/
def TypeUse.mentions (id : Handle) (t : TypeUse) : Bool := t.kept.contains id

/-- Whether the relationship `id` can be reached through an entity type. -/
def EntityType.mentions (id : Handle) (e : Entity) : Bool := e.kept.contains id

/-- Whether the relationship `id` can be reached through a complex type. -/
def ComplexType.mentions (id : Handle) (c : ComplexType TypeUse) : Bool := c.kept.contains id

/-- Whether the relationship `id` is this one, or can be reached through the entities it joins. -/
def RelationshipType.mentions (id : Handle) (r : Relationship) : Bool := r.kept.contains id

theorem TypeUse.mentions_iff {id : Handle} {t : TypeUse} : t.mentions id = true ↔ id ∈ t.kept := by
  simp [TypeUse.mentions]

/-- A relationship, once declared, mentions itself. -/
theorem RelationshipType.mentions_declare (id : Handle) (name : QualifiedName) (ends : List (EndDecl TypeUse)) :
    (RelationshipType.declare id name ends).mentions id = true := by
  simp [RelationshipType.mentions, RelationshipType.declare]

/-! ## Members and declarations -/

/-- An end mentions what its entity mentions; it does not keep its relationship. -/
def RelationshipEnd.mentions (id : Handle) (e : RelationshipEnd) : Bool := e.entity.mentions id

/-- A navigation property keeps its relationship. -/
def NavigationProperty.mentions (id : Handle) (n : NavigationProperty) : Bool := n.relationship.mentions id

/-- Whether the relationship `id` can be reached through a member. -/
def Member.mentions (id : Handle) : Member → Bool
  | property p => p.type.mentions id
  | navigation n => n.mentions id
  | relationshipEnd e => e.mentions id
  | enumMember _ => false

/-- Whether the relationship `id` can be reached through the types in a function's declaration. -/
def FunctionDecl.mentions (id : Handle) (f : FunctionDecl) : Bool :=
  f.parameters.any (·.type.mentions id) || f.returnType?.any (·.mentions id)

/-- Whether the relationship `id` can be reached through an extent. -/
def Extent.mentions (id : Handle) : Extent → Bool
  | entities s => s.entity.mentions id
  | relationships s => s.relationship.mentions id

end EntityQuery
