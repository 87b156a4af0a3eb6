import EntityQuery.Expr.Kind
import EntityQuery.Literal.Basic
import EntityQuery.Model.Declaration
import EntityQuery.Model.Member
/-!
# `Expr.Basic` — expressions

An expression is a **node** with a type. What a node holds beside its children is model data; the children
are expressions again, alone, in lists, behind a lambda, a binding or a related entity. `Node` is
parametric in the type of children, so that everything which looks at one node only (its kind, its
children, its detail) is defined without recursion, and `Expr` closes the circle.

## Contents
* `LambdaOf`, `BindingOf`, `RelatedOf`, `Node`, `Expr`, with the abbreviations `Lambda`, `Binding`, `Related`.
* `Node.kind`, `Node.children` — one node at a time.
* `Expr.inductionOnChildren` — the way facts about all expressions are proved.
-/

namespace EntityQuery

/-! ## Nodes -/

/-- A named, typed variable. -/
structure Variable where
  name : String
  type : TypeUse

/-- Formal variables and a body to be evaluated under arguments for them. -/
structure LambdaOf (ε : Type) where
  formals : List Variable
  body : ε

/-- A variable that stands for each element of a collection in turn. -/
structure BindingOf (ε : Type) where
  source : ε
  element : Variable

/-- A reference that an entity under construction is related to: from the end the entity takes, to the end
    the reference takes. -/
structure RelatedOf (ε : Type) where
  source : RelationshipEnd
  target : RelationshipEnd
  reference : ε

/-- One node, over the type `ε` of its children. -/
inductive Node (ε : Type) where
  | constant (value : Literal)
  | null
  | variableReference (name : String)
  | parameterReference (name : String)
  | property (member : Member) (object : ε)
  | function (function : FunctionDecl) (arguments : List ε)
  | lambda (lambda : LambdaOf ε) (arguments : List ε)
  | navigation (relationship : Relationship) (fromEnd toEnd : RelationshipEnd) (source : ε)
  | newInstance (elements : List ε) (related : List (RelatedOf ε))
  | ref (set : EntitySet) (keys : ε)
  | deref (reference : ε)
  | scan (extent : Extent)
  | comparison (operator : Comparison) (left right : ε)
  | and (left right : ε)
  | or (left right : ε)
  | not (argument : ε)
  | isNull (argument : ε)
  | filter (input : BindingOf ε) (predicate : ε)
  | project (input : BindingOf ε) (projection : ε)

namespace Node

variable {ε : Type}

/-- The kind of a node. -/
def kind : Node ε → Kind
  | constant _ => .constant
  | null => .null
  | variableReference _ => .variableReference
  | parameterReference _ => .parameterReference
  | property _ _ => .property
  | function _ _ => .function
  | lambda _ _ => .lambda
  | navigation _ _ _ _ => .relationshipNavigation
  | newInstance _ _ => .newInstance
  | ref _ _ => .ref
  | deref _ => .deref
  | scan _ => .scan
  | comparison operator _ _ => .comparison operator
  | and _ _ => .and
  | or _ _ => .or
  | not _ => .not
  | isNull _ => .isNull
  | filter _ _ => .filter
  | project _ _ => .project

/-- The children of a node in order: arguments before a lambda's body, elements before the references of
    related entities, the source of a binding before what is said of its elements. -/
def children : Node ε → List ε
  | constant _ | null | variableReference _ | parameterReference _ | scan _ => []
  | property _ object => [object]
  | function _ arguments => arguments
  | lambda l arguments => arguments ++ [l.body]
  | navigation _ _ _ source => [source]
  | newInstance elements related => elements ++ related.map (·.reference)
  | ref _ keys => [keys]
  | deref reference => [reference]
  | comparison _ left right => [left, right]
  | and left right => [left, right]
  | or left right => [left, right]
  | not argument => [argument]
  | isNull argument => [argument]
  | filter input predicate => [input.source, predicate]
  | project input projection => [input.source, projection]

/-- The related entities that a node carries. -/
def related : Node ε → List (RelatedOf ε)
  | newInstance _ related => related
  | _ => []

/-- The related entities that a node carries, if it carries any. -/
def related? (n : Node ε) : Option (List (RelatedOf ε)) := if n.related.isEmpty then none else some n.related

/-- Whether a node carries related entities. -/
def hasRelated (n : Node ε) : Bool := n.related?.isSome

theorem related?_eq_some_iff {n : Node ε} {rs : List (RelatedOf ε)} :
    n.related? = some rs ↔ n.related = rs ∧ rs ≠ [] := by
  unfold related?
  by_cases h : n.related = []
  · have none : n.related.isEmpty = true := List.isEmpty_iff.mpr h
    rw [if_pos none]
    refine iff_of_false nofun ?_
    rintro ⟨rfl, some⟩
    exact some h
  · have some : ¬ n.related.isEmpty = true := fun empty => h (List.isEmpty_iff.mp empty)
    rw [if_neg some, Option.some.injEq]
    constructor
    · rintro rfl
      exact ⟨rfl, h⟩
    · exact And.left

theorem hasRelated_iff {n : Node ε} : n.hasRelated = true ↔ n.related ≠ [] := by
  rw [hasRelated, Option.isSome_iff_exists]
  constructor
  · rintro ⟨rs, h⟩
    obtain ⟨rfl, some⟩ := related?_eq_some_iff.mp h
    exact some
  · intro some
    exact ⟨n.related, related?_eq_some_iff.mpr ⟨rfl, some⟩⟩

end Node

/-! ## Expressions -/

/-- An expression: a node and the type of its value. -/
structure Expr where
  type : TypeUse
  node : Node Expr

/-- A lambda over expressions. -/
abbrev Lambda := LambdaOf Expr

/-- A binding of the elements of an expression. -/
abbrev Binding := BindingOf Expr

/-- An entity related by an expression. -/
abbrev Related := RelatedOf Expr

namespace Expr

/-- The kind of an expression's node. -/
def kind (e : Expr) : Kind := e.node.kind

/-- The children of an expression. -/
def children (e : Expr) : List Expr := e.node.children

/-- The operation by which a pass handles an expression. -/
def operation (e : Expr) : Operation := e.kind.operation

/-- A child is smaller than the expression it belongs to. -/
theorem sizeOf_lt_of_mem_children {e c : Expr} (h : c ∈ e.children) : sizeOf c < sizeOf e := by
  obtain ⟨type, node⟩ := e
  simp only [children] at h
  cases node with
  -- children in a list are members of it; children behind a structure are its fields
  | function f arguments =>
    have := List.sizeOf_lt_of_mem (show c ∈ arguments from h)
    simp only [mk.sizeOf_spec, Node.function.sizeOf_spec]
    omega
  | lambda l arguments =>
    obtain ⟨formals, body⟩ := l
    simp only [Node.children, List.mem_append, List.mem_singleton] at h
    simp only [mk.sizeOf_spec, Node.lambda.sizeOf_spec, LambdaOf.mk.sizeOf_spec]
    rcases h with h | rfl
    · have := List.sizeOf_lt_of_mem h
      omega
    · omega
  | newInstance elements related =>
    simp only [Node.children, List.mem_append, List.mem_map] at h
    simp only [mk.sizeOf_spec, Node.newInstance.sizeOf_spec]
    rcases h with h | ⟨⟨source, target, reference⟩, h, rfl⟩
    · have := List.sizeOf_lt_of_mem h
      omega
    · have := List.sizeOf_lt_of_mem h
      simp only [RelatedOf.mk.sizeOf_spec] at this
      dsimp only
      omega
  | filter input predicate =>
    obtain ⟨source, element⟩ := input
    simp only [Node.children, List.mem_cons, List.not_mem_nil, or_false] at h
    simp only [mk.sizeOf_spec, Node.filter.sizeOf_spec, BindingOf.mk.sizeOf_spec]
    rcases h with rfl | rfl <;> omega
  | project input projection =>
    obtain ⟨source, element⟩ := input
    simp only [Node.children, List.mem_cons, List.not_mem_nil, or_false] at h
    simp only [mk.sizeOf_spec, Node.project.sizeOf_spec, BindingOf.mk.sizeOf_spec]
    rcases h with rfl | rfl <;> omega
  | comparison _ left right | and left right | or left right =>
    simp only [Node.children, List.mem_cons, List.not_mem_nil, or_false] at h
    rcases h with rfl | rfl <;> simp +arith
  | property _ only | navigation _ _ _ only | ref _ only | deref only | not only | isNull only =>
    simp only [Node.children, List.mem_singleton] at h
    subst h
    simp +arith
  | constant _ | null | variableReference _ | parameterReference _ | scan _ => exact absurd h List.not_mem_nil

/-- **Induction on children.** What holds of an expression whenever it holds of its children holds of every
    expression. -/
theorem inductionOnChildren {P : Expr → Prop} (step : ∀ e, (∀ c ∈ e.children, P c) → P e) (e : Expr) : P e :=
  step e fun _ _ => inductionOnChildren step _
termination_by sizeOf e
decreasing_by exact sizeOf_lt_of_mem_children ‹_›

end Expr
end EntityQuery
