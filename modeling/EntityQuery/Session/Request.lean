import EntityQuery.Session.TypeSpec
/-!
# `Session.Request` — everything that makes a value

A request says which value to make and names its operands; performing it in a session looks the operands up
and makes the value. Requests fall into five families: declaring model data, building expressions with
derived types, making nodes under an explicit type, taking an expression out of a larger value, and
assembling commands.

## Contents
* `ModelRequest`, `BuildRequest`, `NodeRequest`, `PartRequest`, `CommandRequest`, each with `perform`.
* `Request`, and `Session.perform`.
-/

namespace EntityQuery

/-! ## Model data -/

/-- An end asked for in the declaration of a relationship. -/
structure EndSpec where
  name : String
  entity : String
  multiplicity : Multiplicity

/-- Model data asked for. -/
inductive ModelRequest where
  | type (type : TypeSpec)
  | enumeration (name : QualifiedName) (underlying : Primitive) (members : List EnumMember)
  | entity (name : QualifiedName) (base : Option String) (properties : List (EntityProperty TypeSpec))
  | complex (name : QualifiedName) (properties : List (Property TypeSpec))
  | relationship (name : QualifiedName) (ends : List EndSpec)
  | relationshipEnd (relationship name : String)
  | navigation (name relationship fromEnd toEnd : String)
  | function (name : QualifiedName) (parameters : List (Property TypeSpec)) (returns : Option TypeSpec)
  | entitySet (container name entity : String)
  | relationshipSet (container name relationship : String)

/-- The end that is asked for. -/
def EndSpec.resolve (s : Session) (spec : EndSpec) : Attempt (EndDecl TypeUse) := do
  return ⟨spec.name, ← s.entity spec.entity, spec.multiplicity⟩

/-- Declares model data; new identities are places inside the session's site. -/
def ModelRequest.perform (s : Session) : ModelRequest → Attempt Value
  | .type spec => do return .type (← spec.resolve s (.root s.site))
  | .enumeration name underlying members => do
    return .enumeration (← attempt (EnumType.make name underlying members))
  | .entity name base properties => do
    let decl := EntityDecl.declare TypeUse.kept name (← resolveEntityProperties s (.root s.site) 0 properties)
    match base with
    | none => return .entity (.root decl)
    | some base => return .entity (.derive decl (← s.entity base))
  | .complex name properties => do
    return .complex (.declare TypeUse.kept name (← resolveColumns s (.root s.site) 0 properties))
  | .relationship name ends => do
    -- the site is the identity of the relationship, and its ends are places inside it
    return .relationship (.declare (.root s.site) name (← ends.mapM (·.resolve s)))
  | .relationshipEnd joined name => do
    return .relationshipEnd (← present ((← s.relationship joined).end? name))
  | .navigation name joined fromEnd toEnd => do
    let joined ← s.relationship joined
    return .navigation (← present (NavigationProperty.make? (.root s.site) name joined fromEnd toEnd))
  | .function name parameters returns => do
    let parameters ← resolveColumns s ((Handle.root s.site).child 0) 0 parameters
    let returns ← returns.mapM (·.resolve s ((Handle.root s.site).child 1))
    return .function ⟨name, parameters.map fun p => ⟨p.name, p.type⟩, returns⟩
  | .entitySet container name element => do
    return .extent (.entities ⟨container, name, ← s.entity element⟩)
  | .relationshipSet container name element => do
    return .extent (.relationships ⟨container, name, ← s.relationship element⟩)

/-! ## Expressions with derived types -/

/-- An expression, lambda, binding or related entity asked for from the builder. -/
inductive BuildRequest where
  | constant (value : LiteralSource)
  | constantOf (type : TypeSpec) (value : LiteralSource)
  | null (type : TypeSpec)
  | variableReference (name : String) (type : TypeSpec)
  | parameterReference (name : String) (type : TypeSpec)
  | property (object name : String)
  | navigationProperty (object navigation : String)
  | navigate (source fromEnd toEnd : String)
  | function (function : String) (arguments : List String)
  | lambda (formals : List (Property TypeSpec)) (body : String)
  | invoke (lambda : String) (arguments : List String)
  | newRow (columns : List (String × String))
  | newInstance (type : TypeSpec) (elements : List String)
  | newCollection (elements : List String)
  | newEmptyCollection (element : TypeSpec)
  | newEntity (entity : String) (elements related : List String)
  | related (source target reference : String)
  | scan (extent : String)
  | ref (set : String) (keys : List String)
  | deref (reference : String)
  | compare (operator : Comparison) (left right : String)
  | and (left right : String)
  | or (left right : String)
  | not (argument : String)
  | isNull (argument : String)
  | bind (source name : String)
  | elementOf (binding : String)
  | filter (input predicate : String)
  | project (input projection : String)

/-- Has the builder make a value, at the session's site and under the rules. A type that is asked for is
    resolved at a place inside the site, apart from what the builder makes at the site itself. -/
def BuildRequest.perform (rules : TypeRules) (s : Session) : BuildRequest → Attempt Value
  | .constant value => do
    let value ← attempt value.evaluate
    return .expression (← attempt ((s.builder rules).constant value))
  | .constantOf type value => do
    let type ← type.resolve s inside
    -- a value that cannot be made is reported before the type is looked at
    let value ← attempt value.evaluate
    return .expression (← attempt ((s.builder rules).constantOf type value))
  | .null type => do return .expression ((s.builder rules).null (← type.resolve s inside))
  | .variableReference name type => do
    return .expression (← attempt ((s.builder rules).variableReference name (← type.resolve s inside)))
  | .parameterReference name type => do
    return .expression (← attempt ((s.builder rules).parameterReference name (← type.resolve s inside)))
  | .property object name => do
    return .expression (← attempt ((s.builder rules).property (← s.expression object) name))
  | .navigationProperty object navigation => do
    let object ← s.expression object
    return .expression (← attempt ((s.builder rules).navigationProperty object (← s.navigation navigation)))
  | .navigate source fromEnd toEnd => do
    let source ← s.expression source
    let fromEnd ← s.relationshipEnd fromEnd
    let toEnd ← s.relationshipEnd toEnd
    return .expression (← attempt ((s.builder rules).navigate source fromEnd toEnd))
  | .function f arguments => do
    let f ← s.function f
    return .expression (← attempt ((s.builder rules).function f (← s.expressions arguments)))
  | .lambda formals body => do
    let formals ← resolveColumns s inside 0 formals
    let body ← s.expression body
    return .lambda (← attempt ((s.builder rules).lambda (formals.map fun v => (v.name, v.type)) body))
  | .invoke l arguments => do
    let l ← s.lambda l
    return .expression (← attempt ((s.builder rules).invoke l (← s.expressions arguments)))
  | .newRow columns => do
    return .expression (← attempt ((s.builder rules).newRow (← s.namedExpressions columns)))
  | .newInstance type elements => do
    let type ← type.resolve s inside
    return .expression (← attempt ((s.builder rules).newInstance type (← s.expressions elements)))
  | .newCollection elements => do
    return .expression (← attempt ((s.builder rules).newCollection (← s.expressions elements)))
  | .newEmptyCollection element => do
    return .expression (← attempt ((s.builder rules).newEmptyCollection (← element.resolve s inside)))
  | .newEntity entity elements joined => do
    let entity ← s.entity entity
    let elements ← s.expressions elements
    let joined ← joined.mapM s.related
    return .expression (← attempt ((s.builder rules).newEntity entity elements joined))
  | .related source target reference => do
    let source ← s.relationshipEnd source
    let target ← s.relationshipEnd target
    return .related (← attempt ((s.builder rules).related source target (← s.expression reference)))
  | .scan extent => do return .expression (← attempt ((s.builder rules).scan (← s.extent extent)))
  | .ref set keys => do
    let set ← s.entitySet set
    return .expression (← attempt ((s.builder rules).ref set (← s.expressions keys)))
  | .deref reference => do
    return .expression (← attempt ((s.builder rules).deref (← s.expression reference)))
  | .compare operator left right => do
    let left ← s.expression left
    return .expression (← attempt ((s.builder rules).compare operator left (← s.expression right)))
  | .and left right => do
    let left ← s.expression left
    return .expression (← attempt ((s.builder rules).and left (← s.expression right)))
  | .or left right => do
    let left ← s.expression left
    return .expression (← attempt ((s.builder rules).or left (← s.expression right)))
  | .not argument => do
    return .expression (← attempt ((s.builder rules).not (← s.expression argument)))
  | .isNull argument => do
    return .expression (← attempt ((s.builder rules).isNull (← s.expression argument)))
  | .bind source name => do
    return .binding (← attempt ((s.builder rules).bind (← s.expression source) name))
  | .elementOf binding => do return .expression (← s.binding binding).element.toExpr
  | .filter input predicate => do
    let input ← s.binding input
    return .expression (← attempt ((s.builder rules).filter input (← s.expression predicate)))
  | .project input projection => do
    let input ← s.binding input
    return .expression ((s.builder rules).project input (← s.expression projection))
where
  /-- The place inside the session's site where types that are asked for are resolved. -/
  inside : Handle := (Handle.root s.site).child 1

/-! ## Nodes under an explicit type -/

/-- A member asked for. -/
inductive MemberSpec where
  | property (object : TypeSpec) (name : String)
  | navigation (name : String)
  | relationshipEnd (name : String)
  | enumMember (enumeration name : String)

/-- The member that is asked for. -/
def MemberSpec.resolve (s : Session) (h : Handle) : MemberSpec → Attempt Member
  | .property object name => do
    let object ← object.resolve s h
    return .property (← resolved (object.shape.structuralProperty? name))
  | .navigation name => do return .navigation (← s.navigation name)
  | .relationshipEnd name => do return .relationshipEnd (← s.relationshipEnd name)
  | .enumMember enumeration name => do
    return .enumMember (← resolved ((← s.enumeration enumeration).member? name))

/-- A node asked for under an explicit type. -/
inductive NodeRequest where
  | property (member : MemberSpec) (object : String)
  | navigation (relationship fromEnd toEnd source : String)
  | function (function : String) (arguments : List String)
  | lambda (lambda : String) (arguments : List String)
  | newInstance (elements : List String)
  | newEntity (elements related : List String)
  | ref (set keys : String)
  | deref (reference : String)
  | scan (extent : String)

/-- Makes a node of a given type. -/
def NodeRequest.perform (rules : TypeRules) (s : Session) (type : TypeUse) : NodeRequest → Attempt Expr
  | .property member object => do
    let member ← member.resolve s ((Handle.root s.site).child 2)
    attempt (Expr.mkProperty type member (← s.expression object))
  | .navigation relationship fromEnd toEnd source => do
    let relationship ← s.relationship relationship
    let fromEnd ← s.relationshipEnd fromEnd
    let toEnd ← s.relationshipEnd toEnd
    attempt (Expr.mkNavigation type relationship fromEnd toEnd (← s.expression source))
  | .function f arguments => do
    let f ← s.function f
    attempt (Expr.mkFunction type f (← s.expressions arguments))
  | .lambda l arguments => do
    let l ← s.lambda l
    attempt (Expr.mkInvocation type l (← s.expressions arguments))
  | .newInstance elements => do attempt (Expr.mkNewInstance rules type (← s.expressions elements))
  | .newEntity elements related => do
    let elements ← s.expressions elements
    attempt (Expr.mkEntityInstance rules type elements (← related.mapM s.related))
  | .ref set keys => do
    let set ← s.entitySet set
    attempt (Expr.mkRef rules type set (← s.expression keys))
  | .deref reference => do attempt (Expr.mkDeref rules type (← s.expression reference))
  | .scan extent => do attempt (Expr.mkScan rules type (← s.extent extent))

/-! ## Parts of an expression -/

/-- A child of an expression, by the role it plays there and its place among those of the role. -/
inductive PartRequest where
  | object
  | argument (index : Nat)
  | body
  | source
  | element (index : Nat)
  | related (index : Nat)
  | left
  | right
  | input
  | predicate
  | projection

/-- The child of a node that plays a role. -/
def PartRequest.child? {ε : Type} : PartRequest → Node ε → Option ε
  | .object, .property _ owner => some owner
  | .argument i, .function _ arguments => arguments[i]?
  | .argument i, .lambda _ arguments => arguments[i]?
  | .argument _, .ref _ keys => some keys
  | .argument _, .deref reference => some reference
  | .argument _, .not operand => some operand
  | .argument _, .isNull operand => some operand
  | .body, .lambda l _ => some l.body
  | .source, .navigation _ _ _ origin => some origin
  | .element i, .newInstance elements _ => elements[i]?
  | .related i, .newInstance _ joined => joined[i]?.map (·.reference)
  | .left, .comparison _ l _ => some l
  | .left, .and l _ => some l
  | .left, .or l _ => some l
  | .right, .comparison _ _ r => some r
  | .right, .and _ r => some r
  | .right, .or _ r => some r
  | .input, .filter bound _ => some bound.source
  | .input, .project bound _ => some bound.source
  | .predicate, .filter _ p => some p
  | .projection, .project _ p => some p
  | _, _ => none

/-- What plays a role in a node is one of its children. -/
theorem PartRequest.mem_children_of_child?_eq_some {ε : Type} {p : PartRequest} {n : Node ε} {c : ε}
    (h : p.child? n = some c) : c ∈ n.children := by
  unfold PartRequest.child? at h
  split at h <;> grind [Node.children, → List.mem_of_getElem?]

/-! ## Commands -/

/-- A command asked for. -/
inductive CommandRequest where
  | query (query : String)
  | insert (target : String) (clauses : List (String × String)) (returning : Option String)
  | update (target predicate : String) (clauses : List (String × String)) (returning : Option String)
  | delete (target predicate : String)
  | function (function : String)
  | withOptions (command : String) (options : CommandOptions)

/-- Assembles a command. -/
def CommandRequest.perform (rules : TypeRules) (s : Session) : CommandRequest → Attempt Command
  | .query e => do attempt (Command.query rules (← s.expression e))
  | .insert target clauses returning => do
    let target ← s.binding target
    let clauses ← s.namedExpressions clauses
    attempt (Command.insert rules target clauses (← returning.mapM s.expression))
  | .update target predicate clauses returning => do
    let target ← s.binding target
    let predicate ← s.expression predicate
    let clauses ← s.namedExpressions clauses
    attempt (Command.update rules target predicate clauses (← returning.mapM s.expression))
  | .delete target predicate => do
    let target ← s.binding target
    attempt (Command.delete rules target (← s.expression predicate))
  | .function f => do attempt (Command.function rules (← s.function f))
  | .withOptions command options => do return (← s.command command).withOptions options

/-! ## All requests -/

/-- Anything that makes a value. -/
inductive Request where
  | model (request : ModelRequest)
  | build (request : BuildRequest)
  | node (type : TypeSpec) (request : NodeRequest)
  | part (expr : String) (request : PartRequest)
  | command (request : CommandRequest)

/-- Makes the value that is asked for, under the rules. -/
def Session.perform (rules : TypeRules) (s : Session) : Request → Attempt Value
  | .model request => request.perform s
  | .build request => request.perform rules s
  | .node type request => do
    let type ← type.resolve s ((Handle.root s.site).child 1)
    return .expression (← request.perform rules s type)
  | .part expr request => do
    let e ← s.expression expr
    return .expression (← resolved (request.child? e.node))
  | .command request => do return .command (← request.perform rules s)

end EntityQuery
