import EntityQuery.Model.Basic
/-!
# `Model.Declaration` — functions and extents

What a model declares beside its types: **functions**, called with one argument per parameter, and
**extents**, the sets that can be scanned: entity sets and relationship sets.
-/

namespace EntityQuery

/-- A named, typed parameter of a function or of a command. -/
structure Parameter where
  name : String
  type : TypeUse

/-- A declared function. One without a return type can be declared, but not called. -/
structure FunctionDecl where
  name : QualifiedName
  parameters : List Parameter
  returnType? : Option TypeUse

/-- The full name of a function. -/
def FunctionDecl.fullName (f : FunctionDecl) : String := f.name.text

/-- A set of entities of one type. -/
structure EntitySet where
  container : String
  name : String
  entity : Entity

/-- A set of instances of one relationship. -/
structure RelationshipSet where
  container : String
  name : String
  relationship : Relationship

/-- Anything that can be scanned. -/
inductive Extent where
  | entities (set : EntitySet)
  | relationships (set : RelationshipSet)

namespace Extent

/-- The container that holds the extent. -/
def container : Extent → String
  | entities s => s.container
  | relationships s => s.container

/-- The name of the extent. -/
def name : Extent → String
  | entities s => s.name
  | relationships s => s.name

/-- What the elements of the extent are. -/
def elementShape : Extent → EdmShape
  | entities s => .entity s.entity
  | relationships s => .relationship s.relationship

/-- The type of a scan of the extent made at `h`: a collection of its elements. -/
def scanType (h : Handle) (x : Extent) : TypeUse := ⟨h, .collection ⟨h.child 0, x.elementShape⟩⟩

end Extent
end EntityQuery
