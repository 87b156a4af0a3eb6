import EntityQuery.Expr.Basic
import EntityQuery.Expr.ParameterName
import EntityQuery.Model.TypeRules
/-!
# `Expr.Make` — nodes under an explicit type

Each node has one way to be made: from the type its value is to have and from its children, with the rules
that a node of this kind must satisfy whatever builds it. The first broken rule is reported. Deriving the
type from the children is the builder's work; here a given type is only checked.

A node keeps the type use it is given. Where a rule demands *the very type use* of something (the return type
of a function, the type of a lambda's body), it compares handles, so a use of the same type made elsewhere is
turned down.

## Contents
* Leaves: `mkConstant`, `mkNull`, `Variable.make`, `mkParameter`, `mkScan`.
* Members and references: `mkProperty`, `mkNavigation`, `mkRef`, `mkDeref`.
* Calls and instances: `mkFunction`, `Lambda.make`, `mkInvocation`, `mkNewInstance`, `mkEntityInstance`,
  `Related.make`.
* Conditions: `mkComparison`, `mkAnd`, `mkOr`, `mkNot`, `mkIsNull`.
* Sets: `Binding.make`, `mkFilter`, `mkProject`.
-/

namespace EntityQuery

/-! ## Leaves -/

/-- A variable, which must have a name. -/
def Variable.make (name : String) (type : TypeUse) : Except Rejection Variable := do
  require (name != "") (.emptyArgument .name)
  return ⟨name, type⟩

/-- A reference to a variable. -/
def Variable.toExpr (v : Variable) : Expr := ⟨v.type, .variableReference v.name⟩

namespace Expr

/-- A constant: its type is a scalar whose carrier is the kind of the value. -/
def mkConstant (rules : TypeRules) (type : TypeUse) (value : Literal) : Except Rejection Expr := do
  require (rules.isScalar type.shape) (.unexpectedType .resultType .scalarType type.text)
  require (rules.carrier? type.shape == some value.kind)
    (.valueTypeMismatch .value type.text value.kind.name)
  return ⟨type, .constant value⟩

/-- A null of any type. -/
def mkNull (type : TypeUse) : Expr := ⟨type, .null⟩

/-- A reference to a parameter, whose name must be a parameter name. -/
def mkParameter (name : String) (type : TypeUse) : Except Rejection Expr := do
  require (isParameterName name) (.invalidParameterName name)
  return ⟨type, .parameterReference name⟩

/-- A scan of an extent: its type is a collection of what the extent holds. -/
def mkScan (rules : TypeRules) (type : TypeUse) (extent : Extent) : Except Rejection Expr := do
  require ((rules.element? type.shape).any fun t => rules.equals t.shape extent.elementShape)
    (.resultTypeMismatch .resultType ("Collection(" ++ extent.elementShape.text ++ ")") type.text)
  return ⟨type, .scan extent⟩

/-! ## Members and references -/

/-- The value of a member of an instance; the member must be readable. -/
def mkProperty (type : TypeUse) (member : Member) (object : Expr) : Except Rejection Expr := do
  require member.isReadable (.invalidMemberKind .property member.name)
  return ⟨type, .property member object⟩

/-- A walk over a relationship, both of whose ends must be its own. -/
def mkNavigation (type : TypeUse) (relationship : Relationship) (fromEnd toEnd : RelationshipEnd)
    (source : Expr) : Except Rejection Expr := do
  require (fromEnd.isDeclaredBy relationship)
    (.endNotInRelationship .fromEnd fromEnd.name relationship.fullName)
  require (toEnd.isDeclaredBy relationship)
    (.endNotInRelationship .toEnd toEnd.name relationship.fullName)
  return ⟨type, .navigation relationship fromEnd toEnd source⟩

/-- A reference into an entity set by key values. -/
def mkRef (rules : TypeRules) (type : TypeUse) (set : EntitySet) (keys : Expr) :
    Except Rejection Expr := do
  require (rules.isReference type.shape) (.unexpectedType .resultType .referenceType type.text)
  return ⟨type, .ref set keys⟩

/-- The entity a reference points at. -/
def mkDeref (rules : TypeRules) (type : TypeUse) (reference : Expr) : Except Rejection Expr := do
  require (rules.isEntity type.shape) (.unexpectedType .resultType .entityType type.text)
  require (rules.isReference reference.type.shape)
    (.unexpectedType .reference .referenceType reference.type.text)
  return ⟨type, .deref reference⟩

end Expr

/-! ## Calls and instances -/

/-- The declared return type of a function; a function without one cannot be called. -/
def FunctionDecl.returnType (f : FunctionDecl) : Except Rejection TypeUse :=
  match f.returnType? with
  | some type => .ok type
  | none => .error (.unexpectedType .function .functionWithReturnType f.fullName)

/-- Enforces a number of operands. -/
def requireCount (blamed : Argument) (expected found : Nat) : Except Rejection Unit :=
  require (expected == found) (.argumentCountMismatch blamed expected found)

/-- Enforces that a given type use is the very one demanded. -/
def requireSameUse (demanded given : TypeUse) : Except Rejection Unit :=
  require (given.handle == demanded.handle) (.resultTypeMismatch .resultType demanded.text given.text)

/-- A call of a function: its type must be the very use that the function declares to return, and there is
    one argument for each parameter. -/
def Expr.mkFunction (type : TypeUse) (function : FunctionDecl) (arguments : List Expr) :
    Except Rejection Expr := do
  requireSameUse (← function.returnType) type
  requireCount .arguments function.parameters.length arguments.length
  return ⟨type, .function function arguments⟩

/-- The first name in a list that occurs earlier in it. -/
def firstRepeated? : List String → Option String :=
  go []
where
  /-- Goes on after the names in `seen`. -/
  go (seen : List String) : List String → Option String
    | [] => none
    | n :: ns => if seen.contains n then some n else go (n :: seen) ns

/-- A lambda, whose variables must have pairwise distinct names. -/
def Lambda.make (formals : List Variable) (body : Expr) : Except Rejection Lambda :=
  match firstRepeated? (formals.map (·.name)) with
  | some name => .error (.duplicateVariable name)
  | none => .ok ⟨formals, body⟩

namespace Expr

/-- A lambda applied to arguments: its type must be the very use that the body has, and there is one argument
    for each variable. -/
def mkInvocation (type : TypeUse) (lambda : Lambda) (arguments : List Expr) : Except Rejection Expr := do
  requireSameUse lambda.body.type type
  requireCount .arguments lambda.formals.length arguments.length
  return ⟨type, .lambda lambda arguments⟩

/-- Enforces that only a collection is made of no elements. -/
def requireElements (rules : TypeRules) (type : TypeUse) (elements : List Expr) : Except Rejection Unit :=
  require (!elements.isEmpty || rules.isCollection type.shape) (.emptyElements type.text)

/-- An instance of a type made of elements. -/
def mkNewInstance (rules : TypeRules) (type : TypeUse) (elements : List Expr) : Except Rejection Expr := do
  requireElements rules type elements
  return ⟨type, .newInstance elements []⟩

/-- An entity made of elements, together with the entities it is related to. -/
def mkEntityInstance (rules : TypeRules) (type : TypeUse) (elements : List Expr) (related : List Related) :
    Except Rejection Expr := do
  require (rules.isEntity type.shape) (.unexpectedType .resultType .entityType type.text)
  requireElements rules type elements
  return ⟨type, .newInstance elements related⟩

end Expr

/-- The relationship of an end, when it is still alive. -/
def RelationshipEnd.declaring? (alive : Handle → Bool) (e : RelationshipEnd) : Option Relationship :=
  if alive e.relationship.id then some e.relationship else none

/-- The full name of an end's relationship; nothing when it is no longer alive. -/
def RelationshipEnd.declaringName (alive : Handle → Bool) (e : RelationshipEnd) : String :=
  ((e.declaring? alive).map (·.fullName)).getD ""

/-- Whether what was found is of the type expected, or of a subtype. -/
def TypeRules.covers (rules : TypeRules) (expected found : EdmShape) : Bool :=
  rules.equals found expected || rules.isSubtypeOf found expected

/-- Whether an entity may stand at an end: it is of the end's type, or of a subtype. Here equality is asked from
    the end's type to the one found, the other way round than in `TypeRules.covers`. -/
def RelationshipEnd.accepts (rules : TypeRules) (e : RelationshipEnd) (found : Entity) : Bool :=
  rules.equals (.entity e.entity) (.entity found) || rules.isSubtypeOf (.entity found) (.entity e.entity)

/-- **A related entity.** In this order: both ends are of one relationship; they are different ends; at most
    one entity stands at the target end; the operand is a reference; and the entity it points at is of the
    target end's type or derives from it. -/
def Related.make (rules : TypeRules) (alive : Handle → Bool) (source target : RelationshipEnd)
    (reference : Expr) : Except Rejection Related := do
  require (source.sameRelationship target)
    (.targetEndFromDifferentRelationship .targetEnd (source.declaringName alive)
      (target.declaringName alive))
  -- the ends have a relationship in common, so they are one end when they stand at one place in it
  require (!source.sameEnd target) (.targetEndSameAsSourceEnd .targetEnd target.name)
  require target.isAtMostOne
    (.targetEndMustBeAtMostOne .targetEnd target.name target.multiplicity.text)
  match rules.referenceTarget? reference.type.shape with
  | none => .error (.targetEntityNotRef .targetEntityReference reference.type.text)
  | some found =>
    require (target.accepts rules found)
      (.targetEntityNotCompatible .targetEntityReference target.entity.fullName found.fullName)
    return ⟨source, target, reference⟩

namespace Expr

/-! ## Conditions -/

/-- The Boolean type, used at `h`. -/
def booleanAt (h : Handle) : TypeUse := ⟨h, .primitive .boolean⟩

/-- Enforces that an operand is a Boolean. -/
def requireBoolean (rules : TypeRules) (blamed : Argument) (operand : Expr) : Except Rejection Unit :=
  require (rules.isBoolean operand.type.shape) (.unexpectedType blamed .booleanType operand.type.text)

/-- Whether an operator applies to operands of two types at all: scalars, though byte strings only for
    equality; entities with entities and references with references, for equality. -/
def comparable (rules : TypeRules) (operator : Comparison) (left right : EdmShape) : Bool :=
  if rules.isScalar left && rules.isScalar right then
    -- only the left operand is asked: a scalar that is not a byte string does not promote to one
    !rules.isPrimitive left .binary || operator.isEquality
  else
    operator.isEquality &&
      ((rules.isEntity left && rules.isEntity right) || (rules.isReference left && rules.isReference right))

/-- Whether one of two types may stand for the other. -/
def eitherPromotes (rules : TypeRules) (left right : EdmShape) : Bool :=
  rules.promotes left right || rules.promotes right left

/-- A comparison of two operands. -/
def mkComparison (rules : TypeRules) (h : Handle) (operator : Comparison) (left right : Expr) :
    Except Rejection Expr := do
  require
    (comparable rules operator left.type.shape right.type.shape &&
      eitherPromotes rules left.type.shape right.type.shape)
    (.incompatibleTypes .right left.type.text right.type.text)
  return ⟨booleanAt h, .comparison operator left right⟩

/-- The conjunction of two Booleans. -/
def mkAnd (rules : TypeRules) (h : Handle) (left right : Expr) : Except Rejection Expr := do
  requireBoolean rules .left left
  requireBoolean rules .right right
  return ⟨booleanAt h, .and left right⟩

/-- The disjunction of two Booleans. -/
def mkOr (rules : TypeRules) (h : Handle) (left right : Expr) : Except Rejection Expr := do
  requireBoolean rules .left left
  requireBoolean rules .right right
  return ⟨booleanAt h, .or left right⟩

/-- The negation of a Boolean. -/
def mkNot (rules : TypeRules) (h : Handle) (argument : Expr) : Except Rejection Expr := do
  requireBoolean rules .argument argument
  return ⟨booleanAt h, .not argument⟩

/-- The test whether something other than a collection is null. -/
def mkIsNull (rules : TypeRules) (h : Handle) (argument : Expr) : Except Rejection Expr := do
  require (!rules.isCollection argument.type.shape)
    (.unexpectedType .argument .nonCollectionType argument.type.text)
  return ⟨booleanAt h, .isNull argument⟩

end Expr

/-! ## Sets -/

/-- Binds the elements of a collection to a variable of a name. -/
def Binding.make (rules : TypeRules) (source : Expr) (name : String) : Except Rejection Binding :=
  match rules.element? source.type.shape with
  -- the name is looked at only when there are elements to name
  | none => .error (.unexpectedType .expression .collectionType source.type.text)
  | some type => do
    let element ← Variable.make name type
    return ⟨source, element⟩

namespace Expr

/-- The elements of a binding that satisfy a condition; of the type of the collection itself. -/
def mkFilter (rules : TypeRules) (input : Binding) (predicate : Expr) : Except Rejection Expr := do
  requireBoolean rules .predicate predicate
  return ⟨input.source.type, .filter input predicate⟩

/-- What each element of a binding is mapped to, collected. -/
def mkProject (h : Handle) (input : Binding) (projection : Expr) : Expr :=
  ⟨⟨h, .collection projection.type⟩, .project input projection⟩

end Expr
end EntityQuery
