import EntityQuery.Builder.Positional
import EntityQuery.Command.Parameters
import EntityQuery.Expr.Mention
import EntityQuery.Expr.Visit
/-!
# `Command.Basic` — complete commands

A command is a statement ready to be carried out: a query, an insertion, an update, a deletion, or the call
of a function. Assembling one checks what concerns the statement as a whole, in a fixed order: the target
must range over an entity set, the condition must be a Boolean, each set clause must name a property of
the target and fit its type, and all references to one parameter must be of one type.

## Contents
* `DataSpace`, `CommandOptions`, `SetClause`, `Statement`, `Command`.
* `Command.query`, `insert`, `update`, `delete`, `function` — the five ways to assemble a command.
* `Command.mentions`, the relationships a command keeps.
-/

namespace EntityQuery

/-! ## Options -/

/-- The model space that a command's metadata comes from. -/
inductive DataSpace where
  | conceptual | store
deriving DecidableEq

/-- The name of a model space. -/
def DataSpace.name : DataSpace → String
  | conceptual => "Conceptual"
  | store => "Store"

/-- The model space of a name. -/
def DataSpace.ofName? (s : String) : Option DataSpace :=
  [DataSpace.conceptual, .store].find? (·.name == s)

/-- Settings for whoever carries a command out. -/
structure CommandOptions where
  /-- The model space of the command's metadata. -/
  dataSpace : DataSpace := .conceptual
  /-- Nulls compare as the database compares them, not by two-valued logic. -/
  databaseNullSemantics : Bool := true
  /-- Filters stay above projections that call functions of the user. -/
  keepFilterOverProjection : Bool := false

/-! ## Statements -/

/-- The assignment of a value to a property of the target. -/
structure SetClause where
  property : Property TypeUse
  value : Expr

/-- What a command does. -/
inductive Statement where
  | query (query : Expr)
  | insert (target : Binding) (clauses : List SetClause) (returning : Option Expr)
  | update (target : Binding) (predicate : Expr) (clauses : List SetClause) (returning : Option Expr)
  | delete (target : Binding) (predicate : Expr)
  | function (function : FunctionDecl) (resultType : TypeUse)

namespace Statement

/-- The name of a statement's kind. -/
def kindName : Statement → String
  | query _ => "Query"
  | insert _ _ _ => "Insert"
  | update _ _ _ _ => "Update"
  | delete _ _ => "Delete"
  | function _ _ => "Function"

/-- The expressions of a statement in order: what the target ranges over, the condition, the values of the
    clauses, what is returned. -/
def expressions : Statement → List Expr
  | query e => [e]
  | insert target clauses returning => target.source :: clauses.map (·.value) ++ returning.toList
  | update target predicate clauses returning =>
      target.source :: predicate :: clauses.map (·.value) ++ returning.toList
  | delete target predicate => [target.source, predicate]
  | function _ _ => []

/-- The references to parameters in a statement, in the order of its expressions. -/
def parameterReferences (s : Statement) : List Parameter :=
  s.expressions.flatMap Expr.parameterReferences

end Statement

/-! ## Commands -/

/-- A complete command: its statement, the parameters it takes, and its options. -/
structure Command where
  statement : Statement
  parameters : Parameters
  options : CommandOptions

/-- Enforces that a binding ranges over a scan of an entity set. -/
def requireTarget (target : Binding) : Except Rejection Unit :=
  match target.source.node with
  | .scan (.entities _) => .ok ()
  | _ => .error (.unexpectedType .target .entitySetScan target.source.kind.name)

/-- The set clause for a property of a type, by name, and a value that fits it. -/
def SetClause.make (rules : TypeRules) (type : TypeUse) (name : String) (value : Expr) :
    Except Rejection SetClause :=
  match type.shape.structuralProperty? name with
  | none => .error (.unknownMember type.text name)
  | some property => do
    requireAssignable rules .setClauses property.type value
    return ⟨property, value⟩

/-- The set clauses for the elements of a target, in order. -/
def SetClause.makeAll (rules : TypeRules) (type : TypeUse) :
    List (String × Expr) → Except Rejection (List SetClause)
  | [] => .ok []
  | (name, value) :: rest => do
    let clause ← SetClause.make rules type name value
    let clauses ← makeAll rules type rest
    return clause :: clauses

namespace Command

/-- Completes a statement by the parameters it refers to. -/
def assemble (rules : TypeRules) (statement : Statement) : Except Rejection Command := do
  let parameters ← Parameters.declareAll rules [] statement.parameterReferences
  return ⟨statement, parameters, {}⟩

/-- A query. -/
def query (rules : TypeRules) (e : Expr) : Except Rejection Command := assemble rules (.query e)

/-- An insertion of one row into the set that the target ranges over. -/
def insert (rules : TypeRules) (target : Binding) (clauses : List (String × Expr))
    (returning : Option Expr) : Except Rejection Command := do
  requireTarget target
  let clauses ← SetClause.makeAll rules target.element.type clauses
  assemble rules (.insert target clauses returning)

/-- An update of the rows of the target that satisfy a condition. -/
def update (rules : TypeRules) (target : Binding) (predicate : Expr) (clauses : List (String × Expr))
    (returning : Option Expr) : Except Rejection Command := do
  requireTarget target
  Expr.requireBoolean rules .predicate predicate
  -- clauses are judged from the left, and parameters only when all clauses fit
  let clauses ← SetClause.makeAll rules target.element.type clauses
  assemble rules (.update target predicate clauses returning)

/-- A deletion of the rows of the target that satisfy a condition. -/
def delete (rules : TypeRules) (target : Binding) (predicate : Expr) : Except Rejection Command := do
  requireTarget target
  Expr.requireBoolean rules .predicate predicate
  assemble rules (.delete target predicate)

/-- The call of a function, which must have a return type; its parameters become those of the command. -/
def function (rules : TypeRules) (f : FunctionDecl) : Except Rejection Command := do
  let resultType ← f.returnType
  let parameters ← Parameters.declareAll rules [] f.parameters
  return ⟨.function f resultType, parameters, {}⟩

/-- The command with other options. -/
def withOptions (c : Command) (options : CommandOptions) : Command := { c with options := options }

/-- The type of the parameter of a name. -/
def parameterType? (c : Command) (name : String) : Option TypeUse :=
  (c.parameters.find? name).map (·.type)

end Command

/-! ## Mentioned relationships -/

/-- Whether the relationship `id` can be reached through a set clause. -/
def SetClause.mentions (id : Handle) (c : SetClause) : Bool :=
  c.property.type.mentions id || c.value.mentions id

/-- Whether the relationship `id` can be reached through a statement. -/
def Statement.mentions (id : Handle) : Statement → Bool
  | query e => e.mentions id
  | insert target clauses returning =>
      target.mentions id || clauses.any (·.mentions id) || returning.any (·.mentions id)
  | update target predicate clauses returning =>
      target.mentions id || predicate.mentions id || clauses.any (·.mentions id) ||
        returning.any (·.mentions id)
  | delete target predicate => target.mentions id || predicate.mentions id
  | function f resultType => f.mentions id || resultType.mentions id

/-- Whether the relationship `id` can be reached through a command. -/
def Command.mentions (id : Handle) (c : Command) : Bool :=
  c.statement.mentions id || c.parameters.any (·.type.mentions id)

end EntityQuery
