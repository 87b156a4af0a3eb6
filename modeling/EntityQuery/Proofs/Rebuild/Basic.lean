import EntityQuery.Builder.Basic
/-!
# `Proofs.Rebuild.Basic` — building an expression a second time

An expression shows everything it is made of: its type, what its node holds, its children. To **rebuild** it
is to build its children again and to make the call of the builder that matches its node on them. What
matches is read off the node: a member is looked up by its name again, a walk starts from its two ends, an
instance is made of the node's type, or as an entity with related entities when it has some; a reference
is made of the elements of its row of keys.

Each call works at a place of its own, so that the type uses it makes are new.

## Contents
* `Builder.inside` — the builder at a place inside its own.
* `Expr.rebuild`, `rebuildAll`, `rebuildRelated`.
-/

namespace EntityQuery

namespace Builder

/-- The builder at the `i`-th place inside its own. -/
def inside (b : Builder) (i : Nat) : Builder := { b with here := b.here.child i }

/-- The value of a member: a navigation property as such, any other by its name. -/
def propertyOf (b : Builder) (object : Expr) : Member → Except Rejection Expr
  | .navigation n => b.navigationProperty object n
  | member => b.property object member.name

/-- An instance of a type; an entity when there are related entities. -/
def instanceOf (b : Builder) (type : TypeUse) (elements : List Expr) : List Related → Except Rejection Expr
  | [] => b.newInstance type elements
  | related =>
    match type.shape with
    | .entity e => b.newEntity e elements related
    | _ => .error (.unexpectedType .resultType .entityType type.text)

end Builder

mutual

/-- Builds an expression a second time, at the place of the builder. -/
def Expr.rebuild (b : Builder) : Expr → Except Rejection Expr
  | ⟨type, node⟩ => node.rebuild b type
termination_by structural e => e

/-- Makes the call that matches a node of a type, on its children built again. The places of the children
    come after the first inside the builder's, which is left to the call. -/
def Node.rebuild (b : Builder) (type : TypeUse) : Node Expr → Except Rejection Expr
  | .constant value => b.constantOf type value
  | .null => .ok (b.null type)
  | .variableReference name => b.variableReference name type
  | .parameterReference name => b.parameterReference name type
  | .property member object => do
    let object ← object.rebuild (b.inside 1)
    b.propertyOf object member
  | .function f arguments => do
    let arguments ← rebuildAll b 1 arguments
    b.function f arguments
  | .lambda ⟨formals, body⟩ arguments => do
    let arguments ← rebuildAll b 2 arguments
    let body ← body.rebuild (b.inside 1)
    let l ← b.lambda (formals.map fun v => (v.name, v.type)) body
    b.invoke l arguments
  | .navigation _ fromEnd toEnd source => do
    let source ← source.rebuild (b.inside 1)
    b.navigate source fromEnd toEnd
  | .newInstance elements related => do
    let elements ← rebuildAll b 1 elements
    let related ← rebuildRelated b (1 + elements.length) related
    b.instanceOf type elements related
  | .ref set ⟨_, .newInstance keys _⟩ => do
    let keys ← rebuildAll b 1 keys
    b.ref set keys
  -- the keys of a reference that the builder has made are always a row
  | .ref _ ⟨row, _⟩ => .error (.unexpectedType .keys .structuralOrCollectionType row.text)
  | .deref reference => do
    let reference ← reference.rebuild (b.inside 1)
    b.deref reference
  | .scan extent => b.scan extent
  | .comparison operator left right => do
    let left ← left.rebuild (b.inside 1)
    let right ← right.rebuild (b.inside 2)
    b.compare operator left right
  | .and left right => do
    let left ← left.rebuild (b.inside 1)
    let right ← right.rebuild (b.inside 2)
    b.and left right
  | .or left right => do
    let left ← left.rebuild (b.inside 1)
    let right ← right.rebuild (b.inside 2)
    b.or left right
  | .not argument => do
    let argument ← argument.rebuild (b.inside 1)
    b.not argument
  | .isNull argument => do
    let argument ← argument.rebuild (b.inside 1)
    b.isNull argument
  | .filter ⟨source, element⟩ predicate => do
    let source ← source.rebuild (b.inside 1)
    let predicate ← predicate.rebuild (b.inside 2)
    let bound ← b.bind source element.name
    b.filter bound predicate
  | .project ⟨source, element⟩ projection => do
    let source ← source.rebuild (b.inside 1)
    let projection ← projection.rebuild (b.inside 2)
    let bound ← b.bind source element.name
    return b.project bound projection
termination_by structural n => n

/-- Builds several expressions a second time, at the places from the `i`-th on. -/
def rebuildAll (b : Builder) (i : Nat) : List Expr → Except Rejection (List Expr)
  | [] => return []
  | e :: es => do
    let first ← e.rebuild (b.inside i)
    let rest ← rebuildAll b (i + 1) es
    return first :: rest
termination_by structural es => es

/-- Builds several related entities a second time, over the same ends. -/
def rebuildRelated (b : Builder) (i : Nat) : List (RelatedOf Expr) → Except Rejection (List Related)
  | [] => return []
  | ⟨source, target, reference⟩ :: rs => do
    let reference ← reference.rebuild (b.inside i)
    let first ← b.related source target reference
    let rest ← rebuildRelated b (i + 1) rs
    return first :: rest
termination_by structural rs => rs

end

end EntityQuery
