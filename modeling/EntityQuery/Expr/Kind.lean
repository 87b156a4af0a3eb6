/-!
# `Expr.Kind` — the names of expression nodes

Two ways to sort nodes. The **kind** of a node tells the six comparisons apart; the **operation** by which a
pass handles a node does not, so there are twenty-four kinds and nineteen operations.
-/

namespace EntityQuery

/-! ## Comparison operators -/

/-- An operator of a comparison. -/
inductive Comparison where
  | equals | notEquals | lessThan | lessThanOrEquals | greaterThan | greaterThanOrEquals
deriving DecidableEq

namespace Comparison

/-- Every operator. -/
def all : List Comparison :=
  [equals, notEquals, lessThan, lessThanOrEquals, greaterThan, greaterThanOrEquals]

/-- The sign of the operator. -/
def symbol : Comparison → String
  | equals => "="
  | notEquals => "<>"
  | lessThan => "<"
  | lessThanOrEquals => "<="
  | greaterThan => ">"
  | greaterThanOrEquals => ">="

/-- Whether the operator asks for equality; such operators also compare entities and references. -/
def isEquality : Comparison → Bool
  | equals | notEquals => true
  | _ => false

end Comparison

/-! ## Kinds -/

/-- The kind of a node. -/
inductive Kind where
  | constant | null | variableReference | parameterReference | property | function | lambda
  | relationshipNavigation | newInstance | ref | deref | scan
  | comparison (operator : Comparison)
  | and | or | not | isNull | filter | project
deriving DecidableEq

/-- The kind of the comparisons with an operator, by name. -/
def Comparison.kindName : Comparison → String
  | equals => "Equals"
  | notEquals => "NotEquals"
  | lessThan => "LessThan"
  | lessThanOrEquals => "LessThanOrEquals"
  | greaterThan => "GreaterThan"
  | greaterThanOrEquals => "GreaterThanOrEquals"

/-- The operator whose comparisons have a kind name. -/
def Comparison.ofKindName? (name : String) : Option Comparison := all.find? (·.kindName == name)

namespace Kind

/-- Every kind, in the order in which kinds are listed. -/
def all : List Kind :=
  [constant, null, variableReference, parameterReference, property, function, lambda,
    relationshipNavigation, newInstance, ref, deref, scan] ++ Comparison.all.map comparison ++
  [and, or, not, isNull, filter, project]

theorem mem_all (k : Kind) : k ∈ all := by
  cases k with
  | comparison op => cases op <;> simp [all, Comparison.all]
  | _ => simp [all]

/-- The name of a kind. -/
def name : Kind → String
  | constant => "Constant"
  | null => "Null"
  | variableReference => "VariableReference"
  | parameterReference => "ParameterReference"
  | property => "Property"
  | function => "Function"
  | lambda => "Lambda"
  | relationshipNavigation => "RelationshipNavigation"
  | newInstance => "NewInstance"
  | ref => "Ref"
  | deref => "Deref"
  | scan => "Scan"
  | comparison operator => operator.kindName
  | and => "And"
  | or => "Or"
  | not => "Not"
  | isNull => "IsNull"
  | filter => "Filter"
  | project => "Project"

/-- Whether a kind is one of the six comparisons. -/
def isComparison : Kind → Bool
  | comparison _ => true
  | _ => false

end Kind

/-! ## Operations -/

/-- The operation by which a pass handles a node. -/
inductive Operation where
  | constant | null | variableReference | parameterReference | property | function | lambda
  | relationshipNavigation | newInstance | ref | deref | scan | comparison
  | and | or | not | isNull | filter | project
deriving DecidableEq

namespace Operation

/-- The name of an operation. -/
def name : Operation → String
  | constant => "constant"
  | null => "null"
  | variableReference => "variable_reference"
  | parameterReference => "parameter_reference"
  | property => "property"
  | function => "function"
  | lambda => "lambda"
  | relationshipNavigation => "relationship_navigation"
  | newInstance => "new_instance"
  | ref => "ref"
  | deref => "deref"
  | scan => "scan"
  | comparison => "comparison"
  | and => "and"
  | or => "or"
  | not => "not"
  | isNull => "is_null"
  | filter => "filter"
  | project => "project"

end Operation

/-- The operation that handles the nodes of a kind. -/
def Kind.operation : Kind → Operation
  | constant => .constant
  | null => .null
  | variableReference => .variableReference
  | parameterReference => .parameterReference
  | property => .property
  | function => .function
  | lambda => .lambda
  | relationshipNavigation => .relationshipNavigation
  | newInstance => .newInstance
  | ref => .ref
  | deref => .deref
  | scan => .scan
  | comparison _ => .comparison
  | and => .and
  | or => .or
  | not => .not
  | isNull => .isNull
  | filter => .filter
  | project => .project

end EntityQuery
