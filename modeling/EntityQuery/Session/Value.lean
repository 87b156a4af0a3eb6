import EntityQuery.Builder.Basic
import EntityQuery.Command.Basic
/-!
# `Session.Value` — what a session holds, and how long relationships live

A session holds values under names: types, model data, expressions and what is made of them, commands. A
relationship is **alive** while some held value mentions it. Ends and related entities know their
relationship, but do not by themselves keep it alive.

## Contents
* `Value`, `Value.mentions`.
* `Session`, `hold`, `drop`, `alive`, and `Obstacle`, `Attempt`, the ways a request can end without a value.
* One look-up for each sort of value.
-/

namespace EntityQuery

/-! ## Values -/

/-- A value that can be held under a name. -/
inductive Value where
  | type (type : TypeUse)
  | enumeration (type : EnumType)
  | entity (type : Entity)
  | complex (type : ComplexType TypeUse)
  | relationship (type : Relationship)
  | relationshipEnd (relEnd : RelationshipEnd)
  | navigation (property : NavigationProperty)
  | function (function : FunctionDecl)
  | extent (extent : Extent)
  | expression (expr : Expr)
  | lambda (lambda : Lambda)
  | binding (binding : Binding)
  | related (related : Related)
  | command (command : Command)

/-- Whether the relationship `id` can be reached through a value. -/
def Value.mentions (id : Handle) : Value → Bool
  | type t => t.mentions id
  | enumeration _ => false
  | entity e => e.mentions id
  | complex c => c.mentions id
  | relationship r => r.mentions id
  | relationshipEnd e => e.mentions id
  | navigation n => n.mentions id
  | function f => f.mentions id
  | extent x => x.mentions id
  | expression e => e.mentions id
  | lambda l => l.mentions id
  | binding b => b.mentions id
  | related r => r.mentions id
  | command c => c.mentions id

/-! ## Attempts -/

/-- Why a request makes no value: it asks for something that is not held, or that the model does not have,
    or it is rejected. -/
inductive Obstacle where
  | unresolved
  | absent
  | rejected (cause : Rejection)

/-- A computation that may meet an obstacle. -/
abbrev Attempt (α : Type) := Except Obstacle α

/-- A construction as an attempt. -/
def attempt {α : Type} : Except Rejection α → Attempt α
  | .ok a => .ok a
  | .error cause => .error (.rejected cause)

/-- A look-up in the model as an attempt. -/
def present {α : Type} : Option α → Attempt α
  | some a => .ok a
  | none => .error .absent

/-- A look-up among what was asked for as an attempt. -/
def resolved {α : Type} : Option α → Attempt α
  | some a => .ok a
  | none => .error .unresolved

@[simp] theorem attempt_eq_ok_iff {α : Type} {x : Except Rejection α} {a : α} :
    attempt x = .ok a ↔ x = .ok a := by
  cases x <;> simp [attempt]

@[simp] theorem present_eq_ok_iff {α : Type} {x : Option α} {a : α} :
    present x = .ok a ↔ x = some a := by
  cases x <;> simp [present]

@[simp] theorem resolved_eq_ok_iff {α : Type} {x : Option α} {a : α} :
    resolved x = .ok a ↔ x = some a := by
  cases x <;> simp [resolved]

/-! ## Sessions -/

/-- A session: the site of the next operation, and the values held under names. -/
structure Session where
  site : Nat
  held : List (String × Value)

namespace Session

/-- A session that holds nothing. -/
def empty : Session := ⟨0, []⟩

/-- The value held under a name. -/
def find? (s : Session) (name : String) : Option Value :=
  (s.held.find? (·.1 == name)).map (·.2)

/-- Holds a value under a name, in place of what the name held before. -/
def hold (s : Session) (name : String) (value : Value) : Session :=
  -- what the name held before may have been the last to keep a relationship alive
  { s with held := (name, value) :: s.held.filter (·.1 != name) }

/-- Holds no longer what is held under some names. -/
def drop (s : Session) (names : List String) : Session :=
  { s with held := s.held.filter fun entry => !names.contains entry.1 }

/-- Whether the relationship `id` is alive: some held value mentions it. -/
def alive (s : Session) (id : Handle) : Bool := s.held.any (·.2.mentions id)

/-- Whether the relationship `id` is alive while also a value just made exists. -/
def aliveWith (s : Session) (value : Value) (id : Handle) : Bool := s.alive id || value.mentions id

/-- The builder that works at the site of the session. -/
def builder (s : Session) (rules : TypeRules) : Builder := ⟨rules, s.alive, .root s.site⟩

/-! ## Look-ups -/

/-- The value of a name. -/
def value (s : Session) (name : String) : Attempt Value := resolved (s.find? name)

/-- The type held under a name. -/
def type (s : Session) (name : String) : Attempt TypeUse :=
  match s.find? name with
  | some (.type t) => .ok t
  | _ => .error .unresolved

/-- The enumeration held under a name. -/
def enumeration (s : Session) (name : String) : Attempt EnumType :=
  match s.find? name with
  | some (.enumeration e) => .ok e
  | _ => .error .unresolved

/-- The entity type held under a name. -/
def entity (s : Session) (name : String) : Attempt Entity :=
  match s.find? name with
  | some (.entity e) => .ok e
  | _ => .error .unresolved

/-- The complex type held under a name. -/
def complex (s : Session) (name : String) : Attempt (ComplexType TypeUse) :=
  match s.find? name with
  | some (.complex c) => .ok c
  | _ => .error .unresolved

/-- The relationship held under a name. -/
def relationship (s : Session) (name : String) : Attempt Relationship :=
  match s.find? name with
  | some (.relationship r) => .ok r
  | _ => .error .unresolved

/-- The relationship end held under a name. -/
def relationshipEnd (s : Session) (name : String) : Attempt RelationshipEnd :=
  match s.find? name with
  | some (.relationshipEnd e) => .ok e
  | _ => .error .unresolved

/-- The navigation property held under a name. -/
def navigation (s : Session) (name : String) : Attempt NavigationProperty :=
  match s.find? name with
  | some (.navigation n) => .ok n
  | _ => .error .unresolved

/-- The function held under a name. -/
def function (s : Session) (name : String) : Attempt FunctionDecl :=
  match s.find? name with
  | some (.function f) => .ok f
  | _ => .error .unresolved

/-- The extent held under a name. -/
def extent (s : Session) (name : String) : Attempt Extent :=
  match s.find? name with
  | some (.extent x) => .ok x
  | _ => .error .unresolved

/-- The entity set held under a name. -/
def entitySet (s : Session) (name : String) : Attempt EntitySet :=
  match s.find? name with
  | some (.extent (.entities x)) => .ok x
  | _ => .error .unresolved

/-- The expression held under a name. -/
def expression (s : Session) (name : String) : Attempt Expr :=
  match s.find? name with
  | some (.expression e) => .ok e
  | _ => .error .unresolved

/-- The expressions held under several names. -/
def expressions (s : Session) (names : List String) : Attempt (List Expr) := names.mapM s.expression

/-- The expressions held under the names that stand second in pairs. -/
def namedExpressions (s : Session) (pairs : List (String × String)) : Attempt (List (String × Expr)) :=
  pairs.mapM fun p => do return (p.1, ← s.expression p.2)

/-- The lambda held under a name. -/
def lambda (s : Session) (name : String) : Attempt Lambda :=
  match s.find? name with
  | some (.lambda l) => .ok l
  | _ => .error .unresolved

/-- The binding held under a name. -/
def binding (s : Session) (name : String) : Attempt Binding :=
  match s.find? name with
  | some (.binding b) => .ok b
  | _ => .error .unresolved

/-- The related entity held under a name. -/
def related (s : Session) (name : String) : Attempt Related :=
  match s.find? name with
  | some (.related r) => .ok r
  | _ => .error .unresolved

/-- The command held under a name. -/
def command (s : Session) (name : String) : Attempt Command :=
  match s.find? name with
  | some (.command c) => .ok c
  | _ => .error .unresolved

end Session
end EntityQuery
