import Mathlib.Logic.Basic
import Mathlib.Logic.Relation
import EntityQuery.Session.Value
/-!
# `Session.Ownership` — what holds on to what

A value holds the values it is made of, and through them whatever these hold. Only one edge is missing from
this graph: a relationship holds its ends, but an end knows its relationship without holding it. Otherwise
the two would hold each other, and neither would ever be let go.

A relationship is alive while something held reaches it along these edges. Nothing in a session searches for
it: each declaration notes the relationships it keeps when it is made, and `Value.mentions` reads the notes.
Where the notes are in order, they answer what the search would.

## Contents
* `Value.owned`, the values a value is made of; `Value.Reaches`, all that it holds.
* `Value.Noted`, notes in order; `Value.Traced`, mentioning what is reached.
* `mentions_iff_owned`, `traced_of_owned` — one edge of the search, and from the parts to the whole.
* `noted_entity`, `noted_complex`, `noted_relationship` — declarations have their notes in order.
* `Session.Owns`, what the held values reach.
-/

namespace EntityQuery

/-! ## The edges -/

/-- What a shape holds: the parts it is built from, or the declaration it stands for. -/
def Shape.owned : EdmShape → List Value
  | .primitive _ => []
  | .enumeration e => [.enumeration e]
  | .entity e => [.entity e]
  | .complex c => [.complex c]
  | .row columns => columns.map (.type ·.type)
  | .relationship r => [.relationship r]
  | .collection t => [.type t]
  | .reference e => [.entity e]

/-- What an entity type holds: the types of the properties it declares itself, and its base. -/
def EntityType.owned (e : Entity) : List Value :=
  e.own.declared.map (.type ·.type) ++ e.base?.toList.map .entity

/-- What a member holds. -/
def Member.owned : Member → List Value
  | .property p => [.type p.type]
  | .navigation n => [.navigation n]
  | .relationshipEnd e => [.relationshipEnd e]
  | .enumMember _ => []

/-- What an extent holds. -/
def Extent.owned : Extent → List Value
  | .entities set => [.entity set.entity]
  | .relationships set => [.relationship set.relationship]

/-- What a node holds beside its type. A walk holds its relationship; a related entity, a lambda and a
    binding are held whole. -/
def Node.owned : Node Expr → List Value
  | .constant _ | .null | .variableReference _ | .parameterReference _ => []
  | .property member object => member.owned ++ [.expression object]
  | .function f arguments => .function f :: arguments.map .expression
  | .lambda l arguments => .lambda l :: arguments.map .expression
  | .navigation r fromEnd toEnd source =>
      [.relationship r, .relationshipEnd fromEnd, .relationshipEnd toEnd, .expression source]
  | .newInstance elements related => elements.map .expression ++ related.map .related
  | .ref set keys => [.extent (.entities set), .expression keys]
  | .scan extent => [.extent extent]
  | .comparison _ left right | .and left right | .or left right => [.expression left, .expression right]
  | .deref operand | .not operand | .isNull operand => [.expression operand]
  | .filter input operand | .project input operand => [.binding input, .expression operand]

/-- What set clauses hold. -/
def SetClause.owned (clauses : List SetClause) : List Value :=
  clauses.map (.type ·.property.type) ++ clauses.map (.expression ·.value)

/-- What a statement holds. -/
def Statement.owned : Statement → List Value
  | .query e => [.expression e]
  | .insert target clauses returning =>
      .binding target :: SetClause.owned clauses ++ returning.toList.map .expression
  | .update target predicate clauses returning =>
      .binding target :: .expression predicate :: SetClause.owned clauses ++ returning.toList.map .expression
  | .delete target predicate => [.binding target, .expression predicate]
  | .function f resultType => [.function f, .type resultType]

namespace Value

/-- **What a value holds directly.** A relationship holds its ends, an end holds its entity only. -/
def owned : Value → List Value
  | type t => t.shape.owned
  | enumeration _ => []
  | entity e => e.owned
  | complex c => c.properties.map (.type ·.type)
  | relationship r => r.allEnds.map .relationshipEnd
  -- the relationship of the end is not among these
  | relationshipEnd e => [.entity e.entity]
  | navigation n => [.relationship n.relationship]
  | function f => f.parameters.map (.type ·.type) ++ f.returnType?.toList.map .type
  | extent x => x.owned
  | expression e => .type e.type :: e.node.owned
  | lambda l => l.formals.map (.type ·.type) ++ [.expression l.body]
  | binding b => [.expression b.source, .type b.element.type]
  | related r => [.relationshipEnd r.source, .relationshipEnd r.target, .expression r.reference]
  | command c => c.statement.owned ++ c.parameters.map (.type ·.type)

/-- **What a value holds,** itself included: what can be reached along the edges. -/
def Reaches (v w : Value) : Prop := Relation.ReflTransGen (fun a b => b ∈ a.owned) v w

variable {u v w : Value}

@[simp] theorem reaches_self (v : Value) : v.Reaches v := .refl

theorem Reaches.trans (h : u.Reaches v) (k : v.Reaches w) : u.Reaches w := Relation.ReflTransGen.trans h k

theorem reaches_of_mem_owned (h : w ∈ v.owned) : v.Reaches w := .single h

/-- What a value reaches is the value itself, or reached from something that it holds directly. -/
theorem reaches_iff : v.Reaches w ↔ w = v ∨ ∃ u ∈ v.owned, u.Reaches w := by
  rw [Reaches, Relation.ReflTransGen.cases_head_iff, eq_comm]
  exact Iff.rfl

/-- What a node holds is reached from the expression. -/
theorem expression_reaches_of_mem_owned {e : Expr} (h : v ∈ e.node.owned) : (expression e).Reaches v :=
  reaches_of_mem_owned (List.mem_cons_of_mem _ h)

theorem binding_reaches_source (b : Binding) : (binding b).Reaches (.expression b.source) :=
  reaches_of_mem_owned List.mem_cons_self

theorem lambda_reaches_body (l : Lambda) : (lambda l).Reaches (.expression l.body) :=
  reaches_of_mem_owned (List.mem_append_right _ List.mem_cons_self)

section Related

variable (r : Related)

theorem related_reaches_source : (related r).Reaches (.relationshipEnd r.source) :=
  reaches_of_mem_owned List.mem_cons_self

theorem related_reaches_target : (related r).Reaches (.relationshipEnd r.target) :=
  reaches_of_mem_owned (List.mem_cons_of_mem _ List.mem_cons_self)

theorem related_reaches_reference : (related r).Reaches (.expression r.reference) :=
  reaches_of_mem_owned (List.mem_cons_of_mem _ (List.mem_cons_of_mem _ List.mem_cons_self))

end Related

end Value

/-! ## Notes in order -/

/-- **Notes in order.** A declaration notes what the types and entities it is made of keep, a relationship
    also itself. -/
def Value.Noted : Value → Prop
  | .entity e => ∀ id, id ∈ e.own.kept ↔ ∃ p ∈ e.own.declared, id ∈ p.type.kept
  | .complex c => ∀ id, id ∈ c.kept ↔ ∃ p ∈ c.properties, id ∈ p.type.kept
  | .relationship r => ∀ id, id ∈ r.kept ↔ id = r.id ∨ ∃ e ∈ r.ends, id ∈ e.entity.kept
  | _ => True

/-- **Traced.** The relationships that the value mentions are those that it reaches. -/
def Value.Traced (v : Value) : Prop :=
  ∀ id, v.mentions id = true ↔ ∃ r, v.Reaches (.relationship r) ∧ r.id = id

section Mentions

variable {id : Handle}

theorem Shape.mem_kept_iff {s : EdmShape} : id ∈ s.kept ↔ ∃ w ∈ s.owned, w.mentions id = true := by
  cases s <;> simp [Shape.kept, Shape.owned, Value.mentions, EntityType.mentions, ComplexType.mentions,
    RelationshipType.mentions, TypeUse.mentions, columnsKept_eq_flatMap]

/-- An entity type keeps what its own declaration notes and what its base keeps. -/
theorem EntityType.mem_kept_iff {e : Entity} :
    id ∈ e.kept ↔ id ∈ e.own.kept ∨ ∃ b, e.base? = some b ∧ id ∈ b.kept := by
  obtain ⟨own, bases⟩ := e
  cases bases <;> simp [EntityType.kept, EntityType.chain, EntityType.base?]

theorem Member.mentions_iff {m : Member} : m.mentions id = true ↔ ∃ w ∈ m.owned, w.mentions id = true := by
  cases m <;> simp [Member.mentions, Member.owned, Value.mentions]

theorem Extent.mentions_iff {x : Extent} : x.mentions id = true ↔ ∃ w ∈ x.owned, w.mentions id = true := by
  cases x <;> simp [Extent.mentions, Extent.owned, Value.mentions]

theorem Node.mentions_iff {n : Node Expr} :
    (n.mentions id = true ∨ ∃ c ∈ n.children, c.mentions id = true) ↔ ∃ w ∈ n.owned, w.mentions id = true := by
  cases n <;> simp [Node.mentions, Node.children, Node.owned, Value.mentions, Member.mentions_iff,
    Extent.mentions, LambdaOf.mentions, BindingOf.mentions, RelatedOf.mentions, or_and_right, and_or_left, exists_or,
    or_assoc]
  -- where children stand behind a lambda, a related entity or a binding, only the order differs
  all_goals grind

theorem SetClause.mentions_iff {clauses : List SetClause} :
    (∃ c ∈ clauses, c.mentions id = true) ↔ ∃ w ∈ SetClause.owned clauses, w.mentions id = true := by
  simp [SetClause.mentions, SetClause.owned, Value.mentions, and_or_left, or_and_right, exists_or]

theorem Statement.mentions_iff {s : Statement} :
    s.mentions id = true ↔ ∃ w ∈ s.owned, w.mentions id = true := by
  cases s <;> simp [Statement.mentions, Statement.owned, SetClause.mentions_iff, or_and_right, exists_or, or_assoc]
  all_goals simp [Value.mentions, Option.any_eq_true]

/-- Each end of a relationship is declared by it, and each declaration is that of an end. -/
theorem RelationshipType.exists_mem_allEnds_iff {r : Relationship} {P : EndDecl TypeUse → Prop} :
    (∃ e ∈ r.allEnds, P e.decl) ↔ ∃ d ∈ r.ends, P d := by
  constructor
  · rintro ⟨e, he, holds⟩
    obtain ⟨i, _, rfl⟩ := List.mem_map.mp he
    exact ⟨_, List.getElem_mem _, holds⟩
  · rintro ⟨d, hd, holds⟩
    obtain ⟨i, hi, rfl⟩ := List.getElem_of_mem hd
    exact ⟨⟨r, ⟨i, hi⟩⟩, List.mem_map_of_mem (List.mem_finRange _), holds⟩

/-- **One edge of the search.** With its notes in order, a value mentions a relationship exactly when it is
    that relationship, or something that it holds directly mentions it. -/
theorem Value.mentions_iff_owned {v : Value} (noted : v.Noted) :
    v.mentions id = true ↔ (∃ r, v = .relationship r ∧ r.id = id) ∨ ∃ w ∈ v.owned, w.mentions id = true := by
  cases v with
  | type t =>
    rw [mentions, TypeUse.mentions_iff, TypeUse.kept_eq, Shape.mem_kept_iff, owned]
    simp
  | enumeration _ => simp [mentions, owned]
  | entity e =>
    have own := noted id
    rw [mentions, EntityType.mentions, List.contains_iff_mem, EntityType.mem_kept_iff, own]
    simp [mentions, owned, EntityType.owned, TypeUse.mentions, EntityType.mentions, or_and_right, exists_or]
  | complex c =>
    have own := noted id
    rw [mentions, ComplexType.mentions, List.contains_iff_mem, own]
    simp [mentions, owned, TypeUse.mentions]
  | relationship r =>
    have own := noted id
    rw [mentions, RelationshipType.mentions, List.contains_iff_mem, own, @eq_comm _ id,
      ← RelationshipType.exists_mem_allEnds_iff]
    simp [mentions, owned, RelationshipEnd.mentions, RelationshipEnd.entity, EntityType.mentions]
  | relationshipEnd e => simp [mentions, owned, RelationshipEnd.mentions]
  | navigation n => simp [mentions, owned, NavigationProperty.mentions]
  | function f => simp [mentions, owned, FunctionDecl.mentions, or_and_right, exists_or, Option.any_eq_true]
  | extent x => simp [mentions, owned, Extent.mentions_iff]
  | expression e =>
    rw [mentions, Expr.mentions_eq]
    simp only [Expr.topMentions, Bool.or_eq_true, List.any_eq_true, or_assoc]
    rw [Expr.children, Node.mentions_iff]
    simp [owned, mentions]
  | lambda l => simp [mentions, owned, LambdaOf.mentions, or_and_right, exists_or]
  | binding b => simp [mentions, owned, BindingOf.mentions]
  | related r => simp [mentions, owned, RelatedOf.mentions, or_assoc]
  | command c => simp [mentions, owned, Command.mentions, Statement.mentions_iff, or_and_right, exists_or]

end Mentions

/-- What has its notes in order and holds only what is traced is traced. -/
theorem Value.traced_of_owned {v : Value} (noted : v.Noted) (parts : ∀ w ∈ v.owned, w.Traced) : v.Traced := by
  intro id
  rw [mentions_iff_owned noted]
  constructor
  · rintro (⟨r, rfl, same⟩ | ⟨w, hw, mentioned⟩)
    · exact ⟨r, reaches_self _, same⟩
    · obtain ⟨r, reached, same⟩ := (parts w hw id).mp mentioned
      exact ⟨r, (reaches_of_mem_owned hw).trans reached, same⟩
  · rintro ⟨r, reached, same⟩
    rcases reaches_iff.mp reached with self | ⟨w, hw, reached⟩
    · exact .inl ⟨r, self.symm, same⟩
    · exact .inr ⟨w, hw, (parts w hw id).mpr ⟨r, reached, same⟩⟩

/-! ## Declarations note what they keep -/

namespace Value

variable {name : QualifiedName}

theorem noted_entity {declared : List (EntityProperty TypeUse)} {bases : List (EntityDecl TypeUse)} :
    (entity ⟨.declare TypeUse.kept name declared, bases⟩).Noted := by
  intro id
  simp [EntityDecl.declare]

theorem noted_complex {properties : List (Property TypeUse)} :
    (complex (.declare TypeUse.kept name properties)).Noted := by
  intro id
  simp [ComplexType.declare]

theorem noted_relationship {id : Handle} {ends : List (EndDecl TypeUse)} :
    (relationship (.declare id name ends)).Noted := by
  intro other
  simp [RelationshipType.declare]

end Value

/-! ## What a session owns -/

namespace Session

variable {s : Session} {name : String} {v w : Value}

/-- The session owns all that its held values reach. -/
def Owns (s : Session) (w : Value) : Prop := ∃ entry ∈ s.held, entry.2.Reaches w

/-- What is reached from something owned is owned. -/
theorem Owns.trans (owns : s.Owns v) (h : v.Reaches w) : s.Owns w := by
  obtain ⟨entry, held, reached⟩ := owns
  exact ⟨entry, held, reached.trans h⟩

theorem owns_of_find? (h : s.find? name = some v) : s.Owns v := by
  obtain ⟨entry, found, rfl⟩ := Option.map_eq_some_iff.mp h
  exact ⟨entry, List.mem_of_find?_eq_some found, Value.reaches_self _⟩

/-- Holding a value adds what it reaches. -/
theorem owns_of_owns_hold (owns : (s.hold name v).Owns w) : v.Reaches w ∨ s.Owns w := by
  obtain ⟨entry, held, reached⟩ := owns
  rcases List.mem_cons.mp held with rfl | held
  · exact .inl reached
  · exact .inr ⟨entry, (List.mem_filter.mp held).1, reached⟩

/-- Letting names go adds nothing. -/
theorem owns_of_owns_drop {names : List String} (owns : (s.drop names).Owns w) : s.Owns w := by
  obtain ⟨entry, held, reached⟩ := owns
  exact ⟨entry, (List.mem_filter.mp held).1, reached⟩

end Session
end EntityQuery
