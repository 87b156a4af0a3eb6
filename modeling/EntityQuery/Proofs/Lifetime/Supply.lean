import EntityQuery.Proofs.Session.Held
import EntityQuery.Session.Ownership
/-!
# `Proofs.Lifetime.Supply` — what new values are made of

An operation makes a value out of held ones. Whatever the value reaches was owned before, or is new, and new
values are of a few sorts: declarations, which note what they keep; the one relationship that an operation
may declare, with its ends; and values that only put others together. A value is **supplied** by a session
when it is made in this way. The definition is inductive, so facts about all that a new value reaches are
proved by going through how it was made, and the graph of values need not be searched.

## Contents
* `Value.NewIn`, `Session.Supplies`; `Supplies.reached`, `Supplies.traced`.
* `supplies_type`, `supplies_expression` and the like — one lemma for each sort of value put together.
* `supplies_of_resolve` — types that are asked for.
* `supplies_memberType`, `supplies_of_member?` — members and their types.
* `reaches_of_mem_children`, `reaches_of_mem_nodes` — children are reached, also through a lambda, a binding or a
  related entity, and so are all nodes in a value.
-/

namespace EntityQuery

/-! ## New values -/

/-- **New.** What an operation may add to what a session owns on the way to the value it makes: a
    declaration notes what it keeps; the only relationship is the value that is made, declared at the site,
    and the only ends are its own, of entities that the session owns; a related entity stays within one
    relationship. -/
structure Value.NewIn (v : Value) (s : Session) (made : Value) : Prop where
  noted : v.Noted
  relationship : ∀ r, v = .relationship r → made = .relationship r ∧ r.id = .root s.site
  relationshipEnd : ∀ e, v = .relationshipEnd e → made = .relationship e.relationship ∧ s.Owns (.entity e.entity)
  related : ∀ r, v = .related r → r.source.sameRelationship r.target = true

/-- Values about which nothing is to be said when they are new. -/
def Value.IsPlain : Value → Prop
  | entity _ | complex _ | relationship _ | relationshipEnd _ | related _ => False
  | _ => True

theorem Value.newIn_of_isPlain {s : Session} {made v : Value} (plain : v.IsPlain) : v.NewIn s made := by
  cases v <;> first | exact plain.elim | exact ⟨trivial, nofun, nofun, nofun⟩

/-- **Supplied.** The value is made, in finitely many steps, from what the session owns and from new values. -/
inductive Session.Supplies (s : Session) (made : Value) : Value → Prop
  | owned {v : Value} (owns : s.Owns v) : Supplies s made v
  | new {v : Value} (new : v.NewIn s made) (parts : ∀ w ∈ v.owned, Supplies s made w) : Supplies s made v

namespace Session

variable {s : Session} {made v w : Value}

/-- The parts of what is supplied are supplied. -/
theorem Supplies.part (supplied : s.Supplies made v) (h : w ∈ v.owned) : s.Supplies made w := by
  cases supplied with
  | owned owns => exact .owned (owns.trans (Value.reaches_of_mem_owned h))
  | new _ parts => exact parts w h

/-- All that is reached from what is supplied is supplied. -/
theorem Supplies.reached (supplied : s.Supplies made v) (h : v.Reaches w) : s.Supplies made w := by
  induction h with
  | refl => exact supplied
  | tail _ edge ih => exact ih.part edge

/-- What is supplied is owned or new. -/
theorem Supplies.owned_or_new (supplied : s.Supplies made v) : s.Owns v ∨ v.NewIn s made := by
  cases supplied with
  | owned owns => exact .inl owns
  | new new _ => exact .inr new

/-- **New values are traced,** when what the session owns is. -/
theorem Supplies.traced (owned : ∀ w, s.Owns w → w.Traced) (supplied : s.Supplies made v) : v.Traced := by
  induction supplied with
  | owned owns => exact owned _ owns
  | new new _ ih => exact Value.traced_of_owned new.noted ih

theorem supplies_plain (plain : v.IsPlain) (parts : ∀ w ∈ v.owned, s.Supplies made w) : s.Supplies made v :=
  .new (Value.newIn_of_isPlain plain) parts

theorem supplies_of_find? {name : String} (h : s.find? name = some v) : s.Supplies made v :=
  .owned (owns_of_find? h)

theorem supplies_of_has (held : s.Has v) : s.Supplies made v := by
  obtain ⟨name, h⟩ := held
  exact supplies_of_find? h

/-! ## Types -/

section Types

variable {h : Handle} {t u : TypeUse}

theorem supplies_type (parts : ∀ w ∈ t.shape.owned, s.Supplies made w) : s.Supplies made (.type t) :=
  supplies_plain trivial parts

theorem supplies_primitive {k : Primitive} : s.Supplies made (.type ⟨h, .primitive k⟩) :=
  supplies_type fun _ hw => absurd hw List.not_mem_nil

theorem supplies_enumeration {e : EnumType} : s.Supplies made (.enumeration e) :=
  supplies_plain trivial fun _ hw => absurd hw List.not_mem_nil

theorem supplies_entityType {e : Entity} (entity : s.Supplies made (.entity e)) :
    s.Supplies made (.type ⟨h, .entity e⟩) :=
  supplies_type (List.forall_mem_singleton.mpr entity)

theorem supplies_referenceType {e : Entity} (entity : s.Supplies made (.entity e)) :
    s.Supplies made (.type ⟨h, .reference e⟩) :=
  supplies_type (List.forall_mem_singleton.mpr entity)

theorem supplies_collectionType (element : s.Supplies made (.type t)) :
    s.Supplies made (.type ⟨h, .collection t⟩) :=
  supplies_type (List.forall_mem_singleton.mpr element)

theorem supplies_rowType {columns : List (Property TypeUse)}
    (each : ∀ p ∈ columns, s.Supplies made (.type p.type)) : s.Supplies made (.type ⟨h, .row columns⟩) :=
  supplies_type (List.forall_mem_map.mpr each)

/-- What a declaration on the chain of an entity type declares is reached from the type. -/
theorem reaches_of_mem_chain {e : Entity} {d : EntityDecl TypeUse} {p : EntityProperty TypeUse}
    (hd : d ∈ e.chain) (hp : p ∈ d.declared) : (Value.entity e).Reaches (.type p.type) := by
  obtain ⟨own, bases⟩ := e
  have declared (own : EntityDecl TypeUse) (bases : List (EntityDecl TypeUse)) (hp : p ∈ own.declared) :
      (Value.entity ⟨own, bases⟩).Reaches (.type p.type) :=
    Value.reaches_of_mem_owned (List.mem_append_left _ (List.mem_map_of_mem hp))
  induction bases generalizing own with
  | nil =>
    obtain rfl := List.mem_singleton.mp hd
    exact declared _ _ hp
  | cons b bs ih =>
    rcases List.mem_cons.mp hd with rfl | above
    · exact declared _ _ hp
    · -- the declarations further up are the chain of the base
      have base : (Value.entity ⟨own, b :: bs⟩).Reaches (.entity ⟨b, bs⟩) :=
        Value.reaches_of_mem_owned (List.mem_append_right _ List.mem_cons_self)
      exact base.trans (ih b above)

/-- A property of an entity type, own or inherited, has its type from the declaration. -/
theorem reaches_of_property? {e : Entity} {n : String} {p : Property TypeUse} (found : e.property? n = some p) :
    (Value.entity e).Reaches (.type p.type) := by
  obtain ⟨d, hd, found⟩ := List.exists_of_findSome?_eq_some found
  obtain ⟨q, hq, rfl⟩ := List.mem_map.mp (List.mem_of_find?_eq_some found)
  exact reaches_of_mem_chain hd hq

/-- The type of a structural property is reached from the type that has it. -/
theorem reaches_of_structuralProperty? {n : String} {p : Property TypeUse}
    (found : t.shape.structuralProperty? n = some p) : (Value.type t).Reaches (.type p.type) := by
  obtain ⟨handle, shape⟩ := t
  cases shape with
  | entity e =>
    have edge : (Value.type ⟨handle, .entity e⟩).Reaches (.entity e) :=
      Value.reaches_of_mem_owned List.mem_cons_self
    exact edge.trans (reaches_of_property? found)
  | complex c =>
    have edge : (Value.type ⟨handle, .complex c⟩).Reaches (.complex c) :=
      Value.reaches_of_mem_owned List.mem_cons_self
    have declared := List.mem_of_find?_eq_some found
    exact edge.trans (Value.reaches_of_mem_owned (List.mem_map_of_mem declared))
  | row columns =>
    have column := List.mem_of_find?_eq_some found
    exact Value.reaches_of_mem_owned (List.mem_map_of_mem column)
  | primitive _ | enumeration _ | relationship _ | collection _ | reference _ => exact absurd found nofun

end Types

/-! ## Types taken from something else -/

theorem supplies_exprType {e : Expr} (supplied : s.Supplies made (.expression e)) : s.Supplies made (.type e.type) :=
  supplied.part List.mem_cons_self

theorem supplies_elementType {b : Binding} (supplied : s.Supplies made (.binding b)) :
    s.Supplies made (.type b.element.type) :=
  supplied.part (List.mem_cons_of_mem _ List.mem_cons_self)

theorem supplies_returnType {f : FunctionDecl} {t : TypeUse} (supplied : s.Supplies made (.function f))
    (returns : f.returnType? = some t) : s.Supplies made (.type t) := by
  refine supplied.part (List.mem_append_right _ (List.mem_map_of_mem ?_))
  rw [returns]
  exact List.mem_cons_self

/-! ## Types asked for -/

mutual

/-- A type that is asked for is made of held values. -/
theorem supplies_of_resolve {h : Handle} {t : TypeUse} :
    (spec : TypeSpec) → spec.resolve s h = .ok t → s.Supplies made (.type t)
  | .primitive k, resolved => by
    rw [TypeSpec.resolve] at resolved
    obtain rfl := pure_eq_ok_iff.mp resolved
    exact supplies_primitive
  | .enumeration name, resolved => by
    rw [TypeSpec.resolve] at resolved
    obtain ⟨e, _, resolved⟩ := bind_eq_ok_iff.mp resolved
    obtain rfl := pure_eq_ok_iff.mp resolved
    exact supplies_type (List.forall_mem_singleton.mpr supplies_enumeration)
  | .entity name, resolved => by
    rw [TypeSpec.resolve] at resolved
    obtain ⟨e, found, resolved⟩ := bind_eq_ok_iff.mp resolved
    obtain rfl := pure_eq_ok_iff.mp resolved
    exact supplies_entityType (supplies_of_find? (entity_eq_ok_iff.mp found))
  | .complex name, resolved => by
    rw [TypeSpec.resolve] at resolved
    obtain ⟨c, found, resolved⟩ := bind_eq_ok_iff.mp resolved
    obtain rfl := pure_eq_ok_iff.mp resolved
    exact supplies_type (List.forall_mem_singleton.mpr (supplies_of_find? (complex_eq_ok_iff.mp found)))
  | .relationship name, resolved => by
    rw [TypeSpec.resolve] at resolved
    obtain ⟨r, found, resolved⟩ := bind_eq_ok_iff.mp resolved
    obtain rfl := pure_eq_ok_iff.mp resolved
    exact supplies_type (List.forall_mem_singleton.mpr (supplies_of_find? (relationship_eq_ok_iff.mp found)))
  | .reference name, resolved => by
    rw [TypeSpec.resolve] at resolved
    obtain ⟨e, found, resolved⟩ := bind_eq_ok_iff.mp resolved
    obtain rfl := pure_eq_ok_iff.mp resolved
    exact supplies_referenceType (supplies_of_find? (entity_eq_ok_iff.mp found))
  | .collection element, resolved => by
    rw [TypeSpec.resolve] at resolved
    obtain ⟨t, found, resolved⟩ := bind_eq_ok_iff.mp resolved
    obtain rfl := pure_eq_ok_iff.mp resolved
    exact supplies_collectionType (supplies_of_resolve element found)
  | .row columns, resolved => by
    rw [TypeSpec.resolve] at resolved
    obtain ⟨ps, found, resolved⟩ := bind_eq_ok_iff.mp resolved
    obtain rfl := pure_eq_ok_iff.mp resolved
    exact supplies_rowType (supplies_of_resolveColumns columns found)
  | .held name, resolved => by
    rw [TypeSpec.resolve] at resolved
    exact supplies_of_find? (type_eq_ok_iff.mp resolved)
  | .typeOf name, resolved => by
    rw [TypeSpec.resolve] at resolved
    obtain ⟨e, found, resolved⟩ := bind_eq_ok_iff.mp resolved
    obtain rfl := pure_eq_ok_iff.mp resolved
    exact supplies_exprType (supplies_of_find? (expression_eq_ok_iff.mp found))
  | .elementOf name, resolved => by
    rw [TypeSpec.resolve] at resolved
    obtain ⟨b, found, resolved⟩ := bind_eq_ok_iff.mp resolved
    obtain rfl := pure_eq_ok_iff.mp resolved
    exact supplies_elementType (supplies_of_find? (binding_eq_ok_iff.mp found))
  | .returnOf name, found => by
    rw [TypeSpec.resolve] at found
    obtain ⟨f, held, found⟩ := bind_eq_ok_iff.mp found
    exact supplies_returnType (supplies_of_find? (function_eq_ok_iff.mp held)) (resolved_eq_ok_iff.mp found)
  | .propertyOf object name, found => by
    rw [TypeSpec.resolve] at found
    obtain ⟨u, object', found⟩ := bind_eq_ok_iff.mp found
    obtain ⟨p, property, found⟩ := bind_eq_ok_iff.mp found
    obtain rfl := pure_eq_ok_iff.mp found
    exact (supplies_of_resolve object object').reached
      (reaches_of_structuralProperty? (resolved_eq_ok_iff.mp property))
termination_by structural spec => spec

/-- Columns that are asked for are made of held values. -/
theorem supplies_of_resolveColumns {h : Handle} {i : Nat} {columns : List (Property TypeUse)} :
    (specs : List (Property TypeSpec)) → resolveColumns s h i specs = .ok columns →
      ∀ p ∈ columns, s.Supplies made (.type p.type)
  | [], resolved => by
    rw [resolveColumns] at resolved
    obtain rfl := pure_eq_ok_iff.mp resolved
    exact List.forall_mem_nil _
  | ⟨name, type⟩ :: specs, resolved => by
    rw [resolveColumns] at resolved
    obtain ⟨t, first, resolved⟩ := bind_eq_ok_iff.mp resolved
    obtain ⟨ps, rest, resolved⟩ := bind_eq_ok_iff.mp resolved
    obtain rfl := pure_eq_ok_iff.mp resolved
    exact List.forall_mem_cons.mpr ⟨supplies_of_resolve type first, supplies_of_resolveColumns specs rest⟩
termination_by structural specs => specs

end

/-- Properties of an entity that are asked for have types made of held values. -/
theorem supplies_of_resolveEntityProperties {h : Handle} {i : Nat} {specs : List (EntityProperty TypeSpec)}
    {properties : List (EntityProperty TypeUse)} (resolved : resolveEntityProperties s h i specs = .ok properties) :
    ∀ p ∈ properties, s.Supplies made (.type p.type) := by
  induction specs generalizing i properties with
  | nil =>
    obtain rfl := pure_eq_ok_iff.mp resolved
    exact List.forall_mem_nil _
  | cons spec specs ih =>
    obtain ⟨t, first, resolved⟩ := bind_eq_ok_iff.mp resolved
    obtain ⟨ps, rest, resolved⟩ := bind_eq_ok_iff.mp resolved
    obtain rfl := pure_eq_ok_iff.mp resolved
    exact List.forall_mem_cons.mpr ⟨supplies_of_resolve spec.type first, ih rest⟩

/-! ## Members -/

section Members

/-- The type of an end points at the entity of the end. -/
theorem supplies_endType {e : RelationshipEnd} (supplied : s.Supplies made (.relationshipEnd e)) :
    s.Supplies made (.type e.type) :=
  supplies_referenceType (supplied.part List.mem_cons_self)

/-- A relationship holds its ends. -/
theorem supplies_relationshipEnd {e : RelationshipEnd} (supplied : s.Supplies made (.relationship e.relationship)) :
    s.Supplies made (.relationshipEnd e) :=
  supplied.part (List.mem_map_of_mem (List.mem_map_of_mem (List.mem_finRange e.index)))

/-- The type of a walk to an end is made of the type of the end. -/
theorem supplies_walkType {b : Builder} {e : RelationshipEnd} (supplied : s.Supplies made (.relationshipEnd e)) :
    s.Supplies made (.type (b.navigationType e)) := by
  unfold Builder.navigationType
  by_cases one : e.isAtMostOne = true
  · rw [if_pos one]
    exact supplies_endType supplied
  · rw [if_neg one]
    exact supplies_collectionType (supplies_endType supplied)

/-- The relationship of a navigation property has the end that the property leads to. -/
theorem supplies_navigationType {n : NavigationProperty} (supplied : s.Supplies made (.navigation n)) :
    s.Supplies made (.type n.type) := by
  have relationship : s.Supplies made (.relationship n.relationship) := supplied.part List.mem_cons_self
  have toEnd : s.Supplies made (.relationshipEnd n.toEnd) := supplies_relationshipEnd relationship
  have entity : s.Supplies made (.entity n.toEnd.entity) := toEnd.part List.mem_cons_self
  unfold NavigationProperty.type
  by_cases one : n.toEnd.isAtMostOne = true
  · rw [if_pos one]
    exact supplies_entityType entity
  · rw [if_neg one]
    exact supplies_collectionType (supplies_entityType entity)

/-- The type of a member is made of what the member holds. -/
theorem supplies_memberType {m : Member} {t : TypeUse} (parts : ∀ w ∈ m.owned, s.Supplies made w)
    (typed : m.type? = some t) : s.Supplies made (.type t) := by
  cases m with
  | property p =>
    obtain rfl := Option.some.inj typed
    exact parts _ List.mem_cons_self
  | navigation n =>
    obtain rfl := Option.some.inj typed
    exact supplies_navigationType (parts _ List.mem_cons_self)
  | relationshipEnd e =>
    obtain rfl := Option.some.inj typed
    exact supplies_endType (parts _ List.mem_cons_self)
  | enumMember _ => exact absurd typed nofun

/-- A member that a type has holds what is reached from the type. -/
theorem supplies_of_member? {t : TypeUse} {n : String} {m : Member} (type : s.Supplies made (.type t))
    (found : t.shape.member? n = some m) : ∀ w ∈ m.owned, s.Supplies made w := by
  obtain ⟨handle, shape⟩ := t
  have structural (p : Property TypeUse) (has : shape.structuralProperty? n = some p) :
      ∀ w ∈ (Member.property p).owned, s.Supplies made w :=
    List.forall_mem_singleton.mpr (type.reached (reaches_of_structuralProperty? (t := ⟨handle, shape⟩) has))
  cases shape with
  | relationship r =>
    obtain ⟨e, has, rfl⟩ := Option.map_eq_some_iff.mp found
    obtain ⟨rfl, _⟩ := RelationshipType.end?_eq_some has
    have relationship : s.Supplies made (.relationship e.relationship) := type.part List.mem_cons_self
    exact List.forall_mem_singleton.mpr (supplies_relationshipEnd relationship)
  | primitive _ | enumeration _ | entity _ | complex _ | row _ | collection _ | reference _ =>
    unfold Shape.member? at found
    obtain ⟨p, has, rfl⟩ := Option.map_eq_some_iff.mp found
    exact structural p has

end Members

/-! ## Expressions and what is made of them -/

section Expressions

variable {type : TypeUse} {node : Node Expr} {es : List Expr}

theorem supplies_expression (typed : s.Supplies made (.type type)) (parts : ∀ w ∈ node.owned, s.Supplies made w) :
    s.Supplies made (.expression ⟨type, node⟩) :=
  supplies_plain trivial (List.forall_mem_cons.mpr ⟨typed, parts⟩)

theorem supplies_pair (first : s.Supplies made v) (second : s.Supplies made w) :
    ∀ u ∈ [v, w], s.Supplies made u :=
  List.forall_mem_cons.mpr ⟨first, List.forall_mem_singleton.mpr second⟩

theorem supplies_all (each : ∀ e ∈ es, s.Supplies made (.expression e)) :
    ∀ w ∈ es.map .expression, s.Supplies made w :=
  List.forall_mem_map.mpr each

/-- An instance of elements alone. -/
theorem supplies_newInstance (typed : s.Supplies made (.type type))
    (each : ∀ e ∈ es, s.Supplies made (.expression e)) :
    s.Supplies made (.expression ⟨type, .newInstance es []⟩) :=
  supplies_expression typed (List.forall_mem_append.mpr ⟨supplies_all each, List.forall_mem_nil _⟩)

/-- An instance of elements and related entities. -/
theorem supplies_entityInstance {related : List Related} (typed : s.Supplies made (.type type))
    (each : ∀ e ∈ es, s.Supplies made (.expression e)) (joined : ∀ r ∈ related, s.Supplies made (.related r)) :
    s.Supplies made (.expression ⟨type, .newInstance es related⟩) :=
  supplies_expression typed (List.forall_mem_append.mpr ⟨supplies_all each, List.forall_mem_map.mpr joined⟩)

/-- A call of a function. -/
theorem supplies_call {f : FunctionDecl} (typed : s.Supplies made (.type type))
    (function : s.Supplies made (.function f)) (each : ∀ e ∈ es, s.Supplies made (.expression e)) :
    s.Supplies made (.expression ⟨type, .function f es⟩) :=
  supplies_expression typed (List.forall_mem_cons.mpr ⟨function, supplies_all each⟩)

/-- A lambda applied to arguments. -/
theorem supplies_invocation {l : Lambda} (typed : s.Supplies made (.type type))
    (lambda : s.Supplies made (.lambda l)) (each : ∀ e ∈ es, s.Supplies made (.expression e)) :
    s.Supplies made (.expression ⟨type, .lambda l es⟩) :=
  supplies_expression typed (List.forall_mem_cons.mpr ⟨lambda, supplies_all each⟩)

/-- A Boolean made of an operand, or of two. -/
theorem supplies_condition {h : Handle} (parts : ∀ w ∈ node.owned, s.Supplies made w) :
    s.Supplies made (.expression ⟨Expr.booleanAt h, node⟩) :=
  supplies_expression supplies_primitive parts

/-- A child of an expression is reached from it, also through a lambda, a binding or a related entity. -/
theorem reaches_of_mem_children {e c : Expr} (h : c ∈ e.children) :
    (Value.expression e).Reaches (.expression c) := by
  obtain ⟨type, node⟩ := e
  have direct (owned : .expression c ∈ node.owned) : (Value.expression ⟨type, node⟩).Reaches (.expression c) :=
    Value.expression_reaches_of_mem_owned owned
  have through {v : Value} (owned : v ∈ node.owned) (reached : v.Reaches (.expression c)) :
      (Value.expression ⟨type, node⟩).Reaches (.expression c) :=
    (Value.expression_reaches_of_mem_owned owned).trans reached
  cases node with
  | lambda l arguments =>
    rcases List.mem_append.mp h with argument | body
    · exact direct (List.mem_cons_of_mem _ (List.mem_map_of_mem argument))
    · obtain rfl := List.mem_singleton.mp body
      exact through List.mem_cons_self (Value.lambda_reaches_body l)
  | newInstance elements related =>
    rcases List.mem_append.mp h with element | reference
    · exact direct (List.mem_append_left _ (List.mem_map_of_mem element))
    · obtain ⟨r, hr, rfl⟩ := List.mem_map.mp reference
      exact through (List.mem_append_right _ (List.mem_map_of_mem hr)) (Value.related_reaches_reference r)
  | filter input _ | project input _ =>
    rcases List.mem_cons.mp h with rfl | operand
    · exact through List.mem_cons_self (Value.binding_reaches_source input)
    · obtain rfl := List.mem_singleton.mp operand
      exact direct (by simp [Node.owned])
  | function _ arguments => exact direct (List.mem_cons_of_mem _ (List.mem_map_of_mem h))
  | property _ _ =>
    obtain rfl := List.mem_singleton.mp h
    exact direct (List.mem_append_right _ List.mem_cons_self)
  | comparison _ _ _ | and _ _ | or _ _ | navigation _ _ _ _ | ref _ _ | deref _ | not _ | isNull _ =>
    refine direct ?_
    simpa [Node.owned, Expr.children, Node.children] using h
  | constant _ | null | variableReference _ | parameterReference _ | scan _ => exact absurd h List.not_mem_nil

/-- All nodes of an expression are reached from it. -/
theorem reaches_of_mem_preorder {e n : Expr} (h : n ∈ e.preorder) : (Value.expression e).Reaches (.expression n) := by
  induction e using Expr.inductionOnChildren with
  | step e ih =>
    rcases Expr.mem_preorder_iff.mp h with rfl | ⟨c, hc, hn⟩
    · exact Value.reaches_self _
    · exact (reaches_of_mem_children hc).trans (ih c hc hn)

/-- The expressions of a statement are reached from what it holds. -/
theorem exists_owned_reaches_of_mem_expressions {statement : Statement} {e : Expr} (h : e ∈ statement.expressions) :
    ∃ w ∈ statement.owned, w.Reaches (.expression e) := by
  have values {clauses : List SetClause} (value : e ∈ clauses.map (·.value)) :
      .expression e ∈ SetClause.owned clauses := by
    obtain ⟨c, hc, rfl⟩ := List.mem_map.mp value
    exact List.mem_append_right _ (List.mem_map_of_mem hc)
  cases statement with
  | query q =>
    obtain rfl := List.mem_singleton.mp h
    exact ⟨_, List.mem_cons_self, Value.reaches_self _⟩
  | insert target clauses returning =>
    simp only [Statement.expressions, List.mem_append, List.mem_cons] at h
    rcases h with (rfl | value) | returned
    · exact ⟨_, by simp [Statement.owned], Value.binding_reaches_source target⟩
    · exact ⟨.expression e, by simp [Statement.owned, values value], Value.reaches_self _⟩
    · exact ⟨_, List.mem_append_right _ (List.mem_map_of_mem returned), Value.reaches_self _⟩
  | update target predicate clauses returning =>
    simp only [Statement.expressions, List.mem_append, List.mem_cons] at h
    rcases h with (rfl | rfl | value) | returned
    · exact ⟨_, by simp [Statement.owned], Value.binding_reaches_source target⟩
    · exact ⟨_, by simp [Statement.owned], Value.reaches_self _⟩
    · exact ⟨.expression e, by simp [Statement.owned, values value], Value.reaches_self _⟩
    · exact ⟨_, List.mem_append_right _ (List.mem_map_of_mem returned), Value.reaches_self _⟩
  | delete target predicate =>
    simp only [Statement.expressions, List.mem_cons, List.not_mem_nil, or_false] at h
    rcases h with rfl | rfl
    · exact ⟨_, by simp [Statement.owned], Value.binding_reaches_source target⟩
    · exact ⟨_, by simp [Statement.owned], Value.reaches_self _⟩
  | function f resultType => exact absurd h List.not_mem_nil

/-- **The nodes in a value** are reached from it. -/
theorem reaches_of_mem_nodes {n : Expr} (h : n ∈ v.nodes) : v.Reaches (.expression n) := by
  obtain ⟨e, root, hn⟩ := Value.mem_nodes_iff.mp h
  have node : (Value.expression e).Reaches (.expression n) := reaches_of_mem_preorder hn
  cases v with
  | expression x =>
    obtain rfl := List.mem_singleton.mp root
    exact node
  | lambda l =>
    obtain rfl := List.mem_singleton.mp root
    exact (Value.lambda_reaches_body l).trans node
  | binding b =>
    obtain rfl := List.mem_singleton.mp root
    exact (Value.binding_reaches_source b).trans node
  | related r =>
    obtain rfl := List.mem_singleton.mp root
    exact (Value.related_reaches_reference r).trans node
  | command c =>
    obtain ⟨w, hw, reached⟩ := exists_owned_reaches_of_mem_expressions root
    have edge : (Value.command c).Reaches w := Value.reaches_of_mem_owned (List.mem_append_left _ hw)
    exact edge.trans (reached.trans node)
  | type _ | enumeration _ | entity _ | complex _ | relationship _ | relationshipEnd _ | navigation _ | function _
  | extent _ => exact absurd root List.not_mem_nil

/-- The type of a scan is a collection of what the extent holds. -/
theorem supplies_scanType {h : Handle} {x : Extent} (supplied : s.Supplies made (.extent x)) :
    s.Supplies made (.type (x.scanType h)) := by
  cases x with
  | entities set => exact supplies_collectionType (supplies_entityType (supplied.part List.mem_cons_self))
  | relationships set =>
    refine supplies_collectionType (supplies_type ?_)
    exact List.forall_mem_singleton.mpr (supplied.part List.mem_cons_self)

end Expressions

/-! ## Values looked up -/

section LookUps

variable {name : String}

theorem supplies_of_expression {e : Expr} (h : s.expression name = .ok e) : s.Supplies made (.expression e) :=
  supplies_of_find? (expression_eq_ok_iff.mp h)

theorem supplies_of_expressions {names : List String} {es : List Expr} (h : s.expressions names = .ok es) :
    ∀ e ∈ es, s.Supplies made (.expression e) :=
  fun e he => supplies_of_has (has_of_expressions_eq_ok h e he)

theorem supplies_of_namedExpressions {pairs : List (String × String)} {es : List (String × Expr)}
    (h : s.namedExpressions pairs = .ok es) : ∀ e ∈ es, s.Supplies made (.expression e.2) :=
  fun e he => supplies_of_has (has_of_namedExpressions_eq_ok h e he)

theorem supplies_of_relateds {names : List String} {rs : List Related} (h : names.mapM s.related = .ok rs) :
    ∀ r ∈ rs, s.Supplies made (.related r) :=
  fun r hr => supplies_of_has (has_of_mapM_related_eq_ok h r hr)

end LookUps

end Session
end EntityQuery
