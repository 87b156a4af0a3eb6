import EntityQuery.Builder.Positional
/-!
# `Builder.Basic` — expressions with derived types

The builder takes operands and model data and derives the type of the result. It makes the checks that need
more than one node (operands against the parameters of a function, elements against the properties of a
type) and leaves the rest to the node itself (`Expr.Make`).

A builder works at one place: new type uses get the handle `here` and places inside it, and everything that
already has a type keeps it — a property's value has the property's own type use, a filter the use of its
input.

## Contents
* `Builder`, and its methods, one for each way to build an expression, a lambda, a binding or a related
  entity.
-/

namespace EntityQuery

/-- What a builder needs to know: the type rules, which relationships are alive, and where it works. -/
structure Builder where
  rules : TypeRules
  alive : Handle → Bool
  here : Handle

namespace Builder

/-! ## Leaves -/

/-- A constant of the primitive type of its value. -/
def constant (b : Builder) (value : Literal) : Except Rejection Expr :=
  Expr.mkConstant b.rules ⟨b.here, .primitive value.kind⟩ value

/-- A constant of a given scalar type. -/
def constantOf (b : Builder) (type : TypeUse) (value : Literal) : Except Rejection Expr :=
  Expr.mkConstant b.rules type value

/-- A null of a given type. -/
def null (_ : Builder) (type : TypeUse) : Expr := Expr.mkNull type

/-- A reference to a variable. -/
def variableReference (_ : Builder) (name : String) (type : TypeUse) : Except Rejection Expr := do
  let v ← Variable.make name type
  return v.toExpr

/-- A reference to a parameter. -/
def parameterReference (_ : Builder) (name : String) (type : TypeUse) : Except Rejection Expr :=
  Expr.mkParameter name type

/-! ## Members and navigation -/

/-- The value of the member of a name: a structural property, own or inherited, or an end of a
    relationship. -/
def property (_ : Builder) (object : Expr) (name : String) : Except Rejection Expr :=
  match object.type.shape.member? name with
  | none => .error (.unknownMember object.type.text name)
  | some member =>
    match member.type? with
    | none => .error (.invalidMemberKind .property name)
    | some type => Expr.mkProperty type member object

/-- The value of a navigation property; the instance must be of the entity the walk starts from, or derive
    from it. -/
def navigationProperty (b : Builder) (object : Expr) (navigation : NavigationProperty) :
    Except Rejection Expr := do
  let expected : EdmShape := .entity navigation.fromEnd.entity
  require (b.rules.covers expected object.type.shape)
    (.valueTypeMismatch .instanceValue expected.text object.type.text)
  Expr.mkProperty navigation.type (.navigation navigation) object

/-- The type of a walk to an end: the type of the end itself, in a collection when there may be many. -/
def navigationType (b : Builder) (toEnd : RelationshipEnd) : TypeUse :=
  if toEnd.isAtMostOne then toEnd.type else ⟨b.here, .collection toEnd.type⟩

/-- A walk from a reference at one end to the references at another, over the relationship of the first
    end, which must still be alive. -/
def navigate (b : Builder) (source : Expr) (fromEnd toEnd : RelationshipEnd) : Except Rejection Expr :=
  match fromEnd.declaring? b.alive with
  | none => .error (.endNotInRelationship .fromEnd fromEnd.name (fromEnd.declaringName b.alive))
  | some relationship => do
    -- whether the second end belongs to the relationship is for the node to say, after the operand
    let expected : EdmShape := .reference fromEnd.entity
    require (b.rules.covers expected source.type.shape)
      (.valueTypeMismatch .source expected.text source.type.text)
    Expr.mkNavigation (b.navigationType toEnd) relationship fromEnd toEnd source

/-! ## Functions and lambdas -/

/-- A call of a function. -/
def function (b : Builder) (function : FunctionDecl) (arguments : List Expr) : Except Rejection Expr := do
  -- a function that returns nothing is refused before its arguments are counted
  let type ← function.returnType
  requirePositions b.rules .arguments (function.parameters.map (·.type)) arguments
  Expr.mkFunction type function arguments

/-- A lambda over variables given by name and type. -/
def lambda (_ : Builder) (formals : List (String × TypeUse)) (body : Expr) : Except Rejection Lambda := do
  let formals ← formals.mapM fun v => Variable.make v.1 v.2
  Lambda.make formals body

/-- A lambda applied to arguments. -/
def invoke (b : Builder) (lambda : Lambda) (arguments : List Expr) : Except Rejection Expr := do
  requirePositions b.rules .arguments (lambda.formals.map (·.type)) arguments
  Expr.mkInvocation lambda.body.type lambda arguments

/-! ## Instances -/

/-- A row of named columns, each of the type of its value. -/
def newRow (b : Builder) (columns : List (String × Expr)) : Except Rejection Expr :=
  Expr.mkNewInstance b.rules ⟨b.here, .row (columns.map fun c => ⟨c.1, c.2.type⟩)⟩ (columns.map (·.2))

/-- Enforces that elements can make an instance of a type: one for each property of a structural type,
    inherited properties first; any number for a collection, each of which may stand for an element. -/
def requireInstance (b : Builder) (type : TypeUse) (elements : List Expr) : Except Rejection Unit :=
  match type.shape with
  | .entity e => requirePositions b.rules .elements (e.properties.map (·.type)) elements
  | .complex c => requirePositions b.rules .elements (c.properties.map (·.type)) elements
  | .row columns => requirePositions b.rules .elements (columns.map (·.type)) elements
  | .collection element => elements.forM (requireAssignable b.rules .elements element)
  | _ => .error (.unexpectedType .resultType .structuralOrCollectionType type.text)

/-- An instance of a structural or collection type. -/
def newInstance (b : Builder) (type : TypeUse) (elements : List Expr) : Except Rejection Expr := do
  b.requireInstance type elements
  Expr.mkNewInstance b.rules type elements

/-- A collection of the type of its first element, which it must have. -/
def newCollection (b : Builder) (elements : List Expr) : Except Rejection Expr :=
  match elements with
  | [] => .error (.emptyArgument .elements)
  | first :: _ => b.newInstance ⟨b.here, .collection first.type⟩ elements

/-- A collection of no elements. -/
def newEmptyCollection (b : Builder) (element : TypeUse) : Except Rejection Expr :=
  Expr.mkNewInstance b.rules ⟨b.here, .collection element⟩ []

/-- An entity made of elements and related to others as it is made. -/
def newEntity (b : Builder) (entity : Entity) (elements : List Expr) (related : List Related) :
    Except Rejection Expr := do
  let type : TypeUse := ⟨b.here, .entity entity⟩
  b.requireInstance type elements
  Expr.mkEntityInstance b.rules type elements related

/-- A related entity. -/
def related (b : Builder) (source target : RelationshipEnd) (reference : Expr) : Except Rejection Related :=
  Related.make b.rules b.alive source target reference

/-! ## Sets and references -/

/-- A scan of an extent. -/
def scan (b : Builder) (extent : Extent) : Except Rejection Expr :=
  Expr.mkScan b.rules (extent.scanType b.here) extent

/-- The properties that a key consists of, by the names of its members. -/
def keyProperties (entity : Entity) : Except Rejection (List (Property TypeUse)) :=
  entity.keyMembers.mapM fun name =>
    match entity.property? name with
    | some p => .ok p
    | none => .error (.unknownMember entity.fullName name)

/-- A reference into an entity set by values for the key, in the order of the key. -/
def ref (b : Builder) (set : EntitySet) (keys : List Expr) : Except Rejection Expr := do
  requireCount .keys set.entity.keyMembers.length keys.length
  -- every key member names a property, so only the values can be at fault from here on
  let properties ← keyProperties set.entity
  requireEach b.rules .keys (properties.map (·.type)) keys
  -- the row of keys is a value of its own, made at a place inside this one
  let row ← { b with here := b.here.child 0 }.newRow (set.entity.keyMembers.zip keys)
  Expr.mkRef b.rules ⟨b.here, .reference set.entity⟩ set row

/-- The entity a reference points at. -/
def deref (b : Builder) (reference : Expr) : Except Rejection Expr :=
  match b.rules.referenceTarget? reference.type.shape with
  | none => .error (.unexpectedType .reference .referenceType reference.type.text)
  | some entity => Expr.mkDeref b.rules ⟨b.here, .entity entity⟩ reference

/-! ## Conditions -/

/-- A comparison. -/
def compare (b : Builder) (operator : Comparison) (left right : Expr) : Except Rejection Expr :=
  Expr.mkComparison b.rules b.here operator left right

/-- The conjunction of two conditions. -/
def and (b : Builder) (left right : Expr) : Except Rejection Expr := Expr.mkAnd b.rules b.here left right

/-- The disjunction of two conditions. -/
def or (b : Builder) (left right : Expr) : Except Rejection Expr := Expr.mkOr b.rules b.here left right

/-- The negation of a condition. -/
def not (b : Builder) (argument : Expr) : Except Rejection Expr := Expr.mkNot b.rules b.here argument

/-- The test for null. -/
def isNull (b : Builder) (argument : Expr) : Except Rejection Expr :=
  Expr.mkIsNull b.rules b.here argument

/-! ## Sets of bound elements -/

/-- Binds the elements of a collection. -/
def bind (b : Builder) (source : Expr) (name : String) : Except Rejection Binding :=
  Binding.make b.rules source name

/-- The bound elements that satisfy a condition. -/
def filter (b : Builder) (input : Binding) (predicate : Expr) : Except Rejection Expr :=
  Expr.mkFilter b.rules input predicate

/-- What the bound elements are mapped to. -/
def project (b : Builder) (input : Binding) (projection : Expr) : Expr :=
  Expr.mkProject b.here input projection

end Builder
end EntityQuery
