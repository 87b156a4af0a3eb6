import EntityQuery.Proofs.Builder.Built
import EntityQuery.Proofs.Command.Acceptance
import EntityQuery.Proofs.Session.Held
/-!
# `Proofs.Session.Construction` — nodes along a run

A request puts at most one node (for a reference into a set, two) on top of what is held, and takes nothing
apart that was not held as a whole. So a property that every call of the builder gives the node it makes is
one that all nodes have, in all values of all runs. Requests for nodes under an explicit type can be
allowed or not; when they are, they must give their nodes the property too.

## Contents
* `Value.Sound` — the property of all nodes of a value, with what stands beside them made by the builder.
* `BuildRequest.sound_of_perform` and the like — one request makes a sound value out of sound ones.
* `Session.sound_run` — all that a run holds is sound.
-/

namespace EntityQuery

/-! ## Sound values -/

/-- What a value is beside its expressions was made by the builder; a relationship, also that of an end, is
    noted among those it keeps. -/
def Value.Founded (rules : TypeRules) : Value → Prop
  | lambda l => LambdaOf.Built l
  | binding b => BindingOf.Built rules b
  | related r => RelatedOf.Built rules r
  | relationship r => r.mentions r.id = true
  | relationshipEnd e => e.relationship.mentions e.relationship.id = true
  | _ => True

/-- **Sound.** All nodes of the value have the property, and the value is made as it should be. -/
structure Value.Sound (rules : TypeRules) (P : Expr → Prop) (v : Value) : Prop where
  nodes : ∀ n ∈ v.nodes, P n
  founded : v.Founded rules

section Values

variable {rules : TypeRules} {P : Expr → Prop}

theorem Value.forall_nodes_iff {v : Value} :
    (∀ n ∈ v.nodes, P n) ↔ ∀ e ∈ v.roots, ∀ n ∈ e.preorder, P n := by
  simp only [mem_nodes_iff, forall_exists_index, and_imp]
  constructor
  · intro h e he n hn
    exact h n e he hn
  · intro h n e he hn
    exact h e he n hn

/-- An expression is sound when its top node has the property and all nodes below have it. -/
theorem Value.sound_expression {e : Expr} (top : P e) (below : ∀ c ∈ e.children, ∀ n ∈ c.preorder, P n) :
    (Value.expression e).Sound rules P where
  nodes := forall_nodes_iff.mpr (List.forall_mem_singleton.mpr (Expr.forall_mem_preorder_iff.mpr ⟨top, below⟩))
  founded := trivial

/-- A node without children is sound when it has the property. -/
theorem Value.sound_leaf {e : Expr} (top : P e) (leaf : e.children = []) : (Value.expression e).Sound rules P := by
  refine sound_expression top ?_
  intro c hc
  rw [leaf] at hc
  exact absurd hc List.not_mem_nil

/-- The nodes of a sound expression have the property. -/
theorem Value.Sound.expression {e : Expr} (sound : (Value.expression e).Sound rules P) :
    ∀ n ∈ e.preorder, P n :=
  Value.forall_nodes_iff.mp sound.nodes e List.mem_cons_self

/-- The nodes in the body of a sound lambda have the property. -/
theorem Value.Sound.body {l : Lambda} (sound : (Value.lambda l).Sound rules P) :
    ∀ n ∈ l.body.preorder, P n :=
  Value.forall_nodes_iff.mp sound.nodes l.body List.mem_cons_self

/-- The nodes in the source of a sound binding have the property. -/
theorem Value.Sound.source {b : Binding} (sound : (Value.binding b).Sound rules P) :
    ∀ n ∈ b.source.preorder, P n :=
  Value.forall_nodes_iff.mp sound.nodes b.source List.mem_cons_self

/-- The nodes in the reference of a sound related entity have the property. -/
theorem Value.Sound.reference {r : Related} (sound : (Value.related r).Sound rules P) :
    ∀ n ∈ r.reference.preorder, P n :=
  Value.forall_nodes_iff.mp sound.nodes r.reference List.mem_cons_self

/-- An instance of elements and sound related entities. -/
theorem Value.sound_newInstance {type : TypeUse} {elements : List Expr} {joined : List Related}
    (top : P ⟨type, .newInstance elements joined⟩) (each : ∀ e ∈ elements, ∀ n ∈ e.preorder, P n)
    (related : ∀ r ∈ joined, (Value.related r).Sound rules P) :
    (Value.expression ⟨type, .newInstance elements joined⟩).Sound rules P := by
  refine sound_expression top (List.forall_mem_append.mpr ⟨each, ?_⟩)
  intro c hc
  obtain ⟨r, hr, rfl⟩ := List.mem_map.mp hc
  exact (related r hr).reference

/-- An instance of elements alone. -/
theorem Value.sound_ofElements {type : TypeUse} {elements : List Expr} (top : P ⟨type, .newInstance elements []⟩)
    (each : ∀ e ∈ elements, ∀ n ∈ e.preorder, P n) :
    (Value.expression ⟨type, .newInstance elements []⟩).Sound rules P := by
  refine sound_newInstance top each ?_
  intro r hr
  exact absurd hr List.not_mem_nil

/-- A sound lambda applied to arguments. -/
theorem Value.sound_invocation {type : TypeUse} {l : Lambda} {arguments : List Expr}
    (top : P ⟨type, .lambda l arguments⟩) (each : ∀ e ∈ arguments, ∀ n ∈ e.preorder, P n)
    (applied : (Value.lambda l).Sound rules P) : (Value.expression ⟨type, .lambda l arguments⟩).Sound rules P :=
  sound_expression top (List.forall_mem_append.mpr ⟨each, List.forall_mem_singleton.mpr applied.body⟩)

end Values

/-! ## One request -/

/-- What holds of two expressions holds of all in their list. -/
theorem forall_mem_pair {Q : Expr → Prop} {l r : Expr} (hl : Q l) (hr : Q r) : ∀ c ∈ [l, r], Q c :=
  List.forall_mem_cons.mpr ⟨hl, List.forall_mem_singleton.mpr hr⟩

section Requests

variable {rules : TypeRules} {P : Expr → Prop} {s : Session}

/-- Making an expression and returning it. -/
theorem attemptExpression_eq_ok_iff {x : Except Rejection Expr} {v : Value} :
    (attempt x >>= fun e => pure (Value.expression e) : Attempt Value) = .ok v ↔
      ∃ e, x = .ok e ∧ v = .expression e := by
  simp only [bind_eq_ok_iff, attempt_eq_ok_iff, pure_eq_ok_iff]

section Operands

variable (held : ∀ w, s.Has w → w.Sound rules P)
include held

theorem sound_of_expression {name : String} {e : Expr} (h : s.expression name = .ok e) :
    ∀ n ∈ e.preorder, P n :=
  (held _ ⟨_, Session.expression_eq_ok_iff.mp h⟩).expression

theorem sound_of_expressions {names : List String} {es : List Expr} (h : s.expressions names = .ok es) :
    ∀ e ∈ es, ∀ n ∈ e.preorder, P n :=
  fun e he => (held _ (Session.has_of_expressions_eq_ok h e he)).expression

theorem sound_of_namedExpressions {pairs : List (String × String)} {es : List (String × Expr)}
    (h : s.namedExpressions pairs = .ok es) : ∀ e ∈ es.map (·.2), ∀ n ∈ e.preorder, P n := by
  intro e he
  obtain ⟨p, hp, rfl⟩ := List.mem_map.mp he
  exact (held _ (Session.has_of_namedExpressions_eq_ok h p hp)).expression

theorem sound_of_lambda {name : String} {l : Lambda} (h : s.lambda name = .ok l) :
    (Value.lambda l).Sound rules P :=
  held _ ⟨_, Session.lambda_eq_ok_iff.mp h⟩

theorem sound_of_binding {name : String} {b : Binding} (h : s.binding name = .ok b) :
    (Value.binding b).Sound rules P :=
  held _ ⟨_, Session.binding_eq_ok_iff.mp h⟩

theorem sound_of_related {names : List String} {rs : List Related} (h : names.mapM s.related = .ok rs) :
    ∀ r ∈ rs, (Value.related r).Sound rules P :=
  fun r hr => held _ (Session.has_of_mapM_related_eq_ok h r hr)

end Operands

/-- A value over one expression is sound when the nodes of that have the property. -/
theorem Value.sound_of_root {v : Value} {e : Expr} (only : v.roots = [e]) (below : ∀ n ∈ e.preorder, P n)
    (founded : v.Founded rules) : v.Sound rules P := by
  refine ⟨?_, founded⟩
  rw [Value.forall_nodes_iff, only]
  exact List.forall_mem_singleton.mpr below

/-- A value without expressions is sound when it is made as it should be. -/
theorem Value.sound_of_founded {v : Value} (plain : v.roots = []) (founded : v.Founded rules) :
    v.Sound rules P := by
  refine ⟨?_, founded⟩
  rw [Value.forall_nodes_iff, plain]
  exact fun e he => absurd he List.not_mem_nil

/-- **Model data** has no nodes, and a relationship notes itself when it is declared. -/
theorem ModelRequest.sound_of_perform (held : ∀ w, s.Has w → w.Sound rules P) {request : ModelRequest}
    {v : Value} (h : request.perform s = .ok v) : v.Sound rules P := by
  cases request with
  | relationship name ends =>
    obtain ⟨ends, _, h⟩ := bind_eq_ok_iff.mp h
    obtain rfl := pure_eq_ok_iff.mp h
    exact Value.sound_of_founded rfl (RelationshipType.mentions_declare _ name ends)
  | relationshipEnd joined name =>
    obtain ⟨r, hr, h⟩ := bind_eq_ok_iff.mp h
    obtain ⟨e, he, h⟩ := bind_eq_ok_iff.mp h
    obtain rfl := pure_eq_ok_iff.mp h
    -- the end belongs to a held relationship
    obtain ⟨rfl, _⟩ := RelationshipType.end?_eq_some (present_eq_ok_iff.mp he)
    exact Value.sound_of_founded rfl (held _ ⟨_, Session.relationship_eq_ok_iff.mp hr⟩).founded
  | entity name base properties =>
    obtain ⟨_, _, h⟩ := bind_eq_ok_iff.mp h
    cases base with
    | none =>
      obtain rfl := pure_eq_ok_iff.mp h
      exact Value.sound_of_founded rfl trivial
    | some base =>
      obtain ⟨_, _, h⟩ := bind_eq_ok_iff.mp h
      obtain rfl := pure_eq_ok_iff.mp h
      exact Value.sound_of_founded rfl trivial
  | type _ | enumeration _ _ _ | complex _ _ | entitySet _ _ _ | relationshipSet _ _ _ =>
    obtain ⟨_, _, h⟩ := bind_eq_ok_iff.mp h
    obtain rfl := pure_eq_ok_iff.mp h
    exact Value.sound_of_founded rfl trivial
  | navigation _ _ _ _ | function _ _ _ =>
    obtain ⟨_, _, h⟩ := bind_eq_ok_iff.mp h
    obtain ⟨_, _, h⟩ := bind_eq_ok_iff.mp h
    obtain rfl := pure_eq_ok_iff.mp h
    exact Value.sound_of_founded rfl trivial

/-- **One call of the builder.** What it makes of sound values is sound, if every node that the builder makes
    has the property. -/
theorem BuildRequest.sound_of_perform (built : ∀ e, Expr.Built rules e → P e)
    (held : ∀ w, s.Has w → w.Sound rules P) {request : BuildRequest} {v : Value}
    (h : request.perform rules s = .ok v) : v.Sound rules P := by
  cases request with
  -- leaves have nothing below them
  | constant value =>
    obtain ⟨literal, _, h⟩ := bind_eq_ok_iff.mp h
    obtain ⟨e, made, rfl⟩ := attemptExpression_eq_ok_iff.mp h
    have top := built e (.constant made)
    obtain ⟨_, _, rfl⟩ := Builder.constant_eq_ok_iff.mp made
    exact Value.sound_leaf top rfl
  | constantOf type value =>
    obtain ⟨type, _, h⟩ := bind_eq_ok_iff.mp h
    obtain ⟨literal, _, h⟩ := bind_eq_ok_iff.mp h
    obtain ⟨e, made, rfl⟩ := attemptExpression_eq_ok_iff.mp h
    have top := built e (.constantOf made)
    obtain ⟨_, _, rfl⟩ := Builder.constantOf_eq_ok_iff.mp made
    exact Value.sound_leaf top rfl
  | null type =>
    obtain ⟨type, _, h⟩ := bind_eq_ok_iff.mp h
    obtain rfl := pure_eq_ok_iff.mp h
    exact Value.sound_leaf (built _ .null) rfl
  | variableReference name type =>
    obtain ⟨type, _, h⟩ := bind_eq_ok_iff.mp h
    obtain ⟨e, made, rfl⟩ := attemptExpression_eq_ok_iff.mp h
    have top := built e (.variableReference made)
    obtain ⟨_, rfl⟩ := Builder.variableReference_eq_ok_iff.mp made
    exact Value.sound_leaf top rfl
  | parameterReference name type =>
    obtain ⟨type, _, h⟩ := bind_eq_ok_iff.mp h
    obtain ⟨e, made, rfl⟩ := attemptExpression_eq_ok_iff.mp h
    have top := built e (.parameterReference made)
    obtain ⟨_, rfl⟩ := Builder.parameterReference_eq_ok_iff.mp made
    exact Value.sound_leaf top rfl
  | newEmptyCollection element =>
    obtain ⟨element, _, h⟩ := bind_eq_ok_iff.mp h
    obtain ⟨e, made, rfl⟩ := attemptExpression_eq_ok_iff.mp h
    have top := built e (.newEmptyCollection made)
    obtain ⟨_, rfl⟩ := Builder.newEmptyCollection_eq_ok_iff.mp made
    exact Value.sound_leaf top rfl
  | scan extent =>
    obtain ⟨extent, _, h⟩ := bind_eq_ok_iff.mp h
    obtain ⟨e, made, rfl⟩ := attemptExpression_eq_ok_iff.mp h
    have top := built e (.scan made)
    obtain ⟨_, rfl⟩ := Builder.scan_eq_ok_iff.mp made
    exact Value.sound_leaf top rfl
  -- one operand
  | property object name =>
    obtain ⟨o, ho, h⟩ := bind_eq_ok_iff.mp h
    obtain ⟨e, made, rfl⟩ := attemptExpression_eq_ok_iff.mp h
    have top := built e (.property made)
    obtain ⟨_, _, _, _, rfl⟩ := Builder.property_eq_ok_iff.mp made
    exact Value.sound_expression top (List.forall_mem_singleton.mpr (sound_of_expression held ho))
  | navigationProperty object navigation =>
    obtain ⟨o, ho, h⟩ := bind_eq_ok_iff.mp h
    obtain ⟨n, _, h⟩ := bind_eq_ok_iff.mp h
    obtain ⟨e, made, rfl⟩ := attemptExpression_eq_ok_iff.mp h
    have top := built e (.navigationProperty made)
    obtain ⟨_, rfl⟩ := Builder.navigationProperty_eq_ok_iff.mp made
    exact Value.sound_expression top (List.forall_mem_singleton.mpr (sound_of_expression held ho))
  | navigate source fromEnd toEnd =>
    obtain ⟨o, ho, h⟩ := bind_eq_ok_iff.mp h
    obtain ⟨fromEnd, hf, h⟩ := bind_eq_ok_iff.mp h
    obtain ⟨toEnd, _, h⟩ := bind_eq_ok_iff.mp h
    obtain ⟨e, made, rfl⟩ := attemptExpression_eq_ok_iff.mp h
    have noted := (held _ ⟨_, Session.relationshipEnd_eq_ok_iff.mp hf⟩).founded
    have top := built e (.navigate noted made)
    obtain ⟨_, _, _, rfl⟩ := Builder.navigate_eq_ok_iff.mp made
    exact Value.sound_expression top (List.forall_mem_singleton.mpr (sound_of_expression held ho))
  | deref reference =>
    obtain ⟨o, ho, h⟩ := bind_eq_ok_iff.mp h
    obtain ⟨e, made, rfl⟩ := attemptExpression_eq_ok_iff.mp h
    have top := built e (.deref made)
    obtain ⟨_, _, _, _, rfl⟩ := Builder.deref_eq_ok_iff.mp made
    exact Value.sound_expression top (List.forall_mem_singleton.mpr (sound_of_expression held ho))
  | not argument =>
    obtain ⟨o, ho, h⟩ := bind_eq_ok_iff.mp h
    obtain ⟨e, made, rfl⟩ := attemptExpression_eq_ok_iff.mp h
    have top := built e (.not made)
    obtain ⟨_, rfl⟩ := Builder.not_eq_ok_iff.mp made
    exact Value.sound_expression top (List.forall_mem_singleton.mpr (sound_of_expression held ho))
  | isNull argument =>
    obtain ⟨o, ho, h⟩ := bind_eq_ok_iff.mp h
    obtain ⟨e, made, rfl⟩ := attemptExpression_eq_ok_iff.mp h
    have top := built e (.isNull made)
    obtain ⟨_, rfl⟩ := Builder.isNull_eq_ok_iff.mp made
    exact Value.sound_expression top (List.forall_mem_singleton.mpr (sound_of_expression held ho))
  -- two operands
  | compare operator left right =>
    obtain ⟨l, hl, h⟩ := bind_eq_ok_iff.mp h
    obtain ⟨r, hr, h⟩ := bind_eq_ok_iff.mp h
    obtain ⟨e, made, rfl⟩ := attemptExpression_eq_ok_iff.mp h
    have top := built e (.compare made)
    obtain ⟨_, _, rfl⟩ := Builder.compare_eq_ok_iff.mp made
    exact Value.sound_expression top (forall_mem_pair (sound_of_expression held hl) (sound_of_expression held hr))
  | and left right =>
    obtain ⟨l, hl, h⟩ := bind_eq_ok_iff.mp h
    obtain ⟨r, hr, h⟩ := bind_eq_ok_iff.mp h
    obtain ⟨e, made, rfl⟩ := attemptExpression_eq_ok_iff.mp h
    have top := built e (.and made)
    obtain ⟨_, _, rfl⟩ := Builder.and_eq_ok_iff.mp made
    exact Value.sound_expression top (forall_mem_pair (sound_of_expression held hl) (sound_of_expression held hr))
  | or left right =>
    obtain ⟨l, hl, h⟩ := bind_eq_ok_iff.mp h
    obtain ⟨r, hr, h⟩ := bind_eq_ok_iff.mp h
    obtain ⟨e, made, rfl⟩ := attemptExpression_eq_ok_iff.mp h
    have top := built e (.or made)
    obtain ⟨_, _, rfl⟩ := Builder.or_eq_ok_iff.mp made
    exact Value.sound_expression top (forall_mem_pair (sound_of_expression held hl) (sound_of_expression held hr))
  | filter input predicate =>
    obtain ⟨b, hb, h⟩ := bind_eq_ok_iff.mp h
    obtain ⟨p, hp, h⟩ := bind_eq_ok_iff.mp h
    obtain ⟨e, made, rfl⟩ := attemptExpression_eq_ok_iff.mp h
    have bound := sound_of_binding held hb
    have top := built e (.filter bound.founded made)
    obtain ⟨_, rfl⟩ := Builder.filter_eq_ok_iff.mp made
    exact Value.sound_expression top (forall_mem_pair bound.source (sound_of_expression held hp))
  | project input projection =>
    obtain ⟨b, hb, h⟩ := bind_eq_ok_iff.mp h
    obtain ⟨p, hp, h⟩ := bind_eq_ok_iff.mp h
    obtain rfl := pure_eq_ok_iff.mp h
    have bound := sound_of_binding held hb
    have top : P ((s.builder rules).project b p) := built _ (.project bound.founded)
    exact Value.sound_expression top (forall_mem_pair bound.source (sound_of_expression held hp))
  -- any number of operands
  | function f arguments =>
    obtain ⟨f, _, h⟩ := bind_eq_ok_iff.mp h
    obtain ⟨es, hes, h⟩ := bind_eq_ok_iff.mp h
    obtain ⟨e, made, rfl⟩ := attemptExpression_eq_ok_iff.mp h
    have top := built e (.function made)
    obtain ⟨_, _, _, rfl⟩ := Builder.function_eq_ok_iff.mp made
    exact Value.sound_expression top (sound_of_expressions held hes)
  | invoke l arguments =>
    obtain ⟨l, hl, h⟩ := bind_eq_ok_iff.mp h
    obtain ⟨es, hes, h⟩ := bind_eq_ok_iff.mp h
    obtain ⟨e, made, rfl⟩ := attemptExpression_eq_ok_iff.mp h
    have applied := sound_of_lambda held hl
    have top := built e (.invoke applied.founded made)
    obtain ⟨_, rfl⟩ := Builder.invoke_eq_ok_iff.mp made
    exact Value.sound_invocation top (sound_of_expressions held hes) applied
  | newRow columns =>
    obtain ⟨es, hes, h⟩ := bind_eq_ok_iff.mp h
    obtain ⟨e, made, rfl⟩ := attemptExpression_eq_ok_iff.mp h
    have top := built e (.newRow made)
    obtain ⟨_, rfl⟩ := Builder.newRow_eq_ok_iff.mp made
    exact Value.sound_ofElements top (sound_of_namedExpressions held hes)
  | newInstance type elements =>
    obtain ⟨type, _, h⟩ := bind_eq_ok_iff.mp h
    obtain ⟨es, hes, h⟩ := bind_eq_ok_iff.mp h
    obtain ⟨e, made, rfl⟩ := attemptExpression_eq_ok_iff.mp h
    have top := built e (.newInstance made)
    obtain ⟨_, _, rfl⟩ := Builder.newInstance_eq_ok_iff.mp made
    exact Value.sound_ofElements top (sound_of_expressions held hes)
  | newCollection elements =>
    obtain ⟨es, hes, h⟩ := bind_eq_ok_iff.mp h
    obtain ⟨e, made, rfl⟩ := attemptExpression_eq_ok_iff.mp h
    have top := built e (.newCollection made)
    obtain ⟨_, _, _, _, rfl⟩ := Builder.newCollection_eq_ok_iff.mp made
    exact Value.sound_ofElements top (sound_of_expressions held hes)
  | newEntity entity elements joined =>
    obtain ⟨entity, _, h⟩ := bind_eq_ok_iff.mp h
    obtain ⟨es, hes, h⟩ := bind_eq_ok_iff.mp h
    obtain ⟨rs, hrs, h⟩ := bind_eq_ok_iff.mp h
    obtain ⟨e, made, rfl⟩ := attemptExpression_eq_ok_iff.mp h
    have related := sound_of_related held hrs
    have top := built e (.newEntity (fun r hr => (related r hr).founded) made)
    obtain ⟨_, _, _, rfl⟩ := Builder.newEntity_eq_ok_iff.mp made
    exact Value.sound_newInstance top (sound_of_expressions held hes) related
  -- the row of keys is a node of its own, between the reference and the keys
  | ref set keys =>
    obtain ⟨set, _, h⟩ := bind_eq_ok_iff.mp h
    obtain ⟨es, hes, h⟩ := bind_eq_ok_iff.mp h
    obtain ⟨e, made, rfl⟩ := attemptExpression_eq_ok_iff.mp h
    have top := built e (.ref made)
    obtain ⟨_, _, _, _, _, rfl⟩ := Builder.ref_eq_ok_iff.mp made
    have row := built _ (.newRow (Builder.newRow_of_ref_eq_ok made))
    have rowSound := @Value.sound_ofElements rules P _ _ row (sound_of_expressions held hes)
    exact Value.sound_expression top (List.forall_mem_singleton.mpr rowSound.expression)
  -- what is not an expression
  | lambda formals body =>
    obtain ⟨formals, _, h⟩ := bind_eq_ok_iff.mp h
    obtain ⟨body, hb, h⟩ := bind_eq_ok_iff.mp h
    obtain ⟨l, made, h⟩ := bind_eq_ok_iff.mp h
    obtain rfl := pure_eq_ok_iff.mp h
    have made := attempt_eq_ok_iff.mp made
    obtain ⟨_, _, rfl⟩ := Builder.lambda_eq_ok_iff.mp made
    exact Value.sound_of_root rfl (sound_of_expression held hb) ⟨_, _, made⟩
  | bind source name =>
    obtain ⟨o, ho, h⟩ := bind_eq_ok_iff.mp h
    obtain ⟨b, made, h⟩ := bind_eq_ok_iff.mp h
    obtain rfl := pure_eq_ok_iff.mp h
    have made := attempt_eq_ok_iff.mp made
    obtain ⟨_, _, _, rfl⟩ := Builder.bind_eq_ok_iff_element.mp made
    exact Value.sound_of_root rfl (sound_of_expression held ho) ⟨_, _, made⟩
  | related source target reference =>
    obtain ⟨source, _, h⟩ := bind_eq_ok_iff.mp h
    obtain ⟨target, _, h⟩ := bind_eq_ok_iff.mp h
    obtain ⟨o, ho, h⟩ := bind_eq_ok_iff.mp h
    obtain ⟨r, made, h⟩ := bind_eq_ok_iff.mp h
    obtain rfl := pure_eq_ok_iff.mp h
    have made := attempt_eq_ok_iff.mp made
    obtain ⟨_, _, _, _, rfl⟩ := Builder.related_eq_ok_iff.mp made
    exact Value.sound_of_root rfl (sound_of_expression held ho) ⟨_, _, made⟩
  | elementOf binding =>
    obtain ⟨b, hb, h⟩ := bind_eq_ok_iff.mp h
    obtain rfl := pure_eq_ok_iff.mp h
    -- the variable of a binding has a name, so the builder makes references to it
    obtain ⟨alive, here, bound⟩ := (sound_of_binding held hb).founded
    obtain ⟨_, _, named, _⟩ := Builder.bind_eq_ok_iff_element.mp bound
    have made : (s.builder rules).variableReference b.element.name b.element.type = .ok b.element.toExpr :=
      Builder.variableReference_eq_ok_iff.mpr ⟨named, rfl⟩
    exact Value.sound_leaf (built _ (.variableReference made)) rfl

/-- **One node under an explicit type.** What is made of sound values is sound, if every node that is made
    under an explicit type has the property. -/
theorem NodeRequest.sound_of_perform (given : ∀ e, Expr.Given rules e → P e)
    (held : ∀ w, s.Has w → w.Sound rules P) {request : NodeRequest} {type : TypeUse} {e : Expr}
    (h : request.perform rules s type = .ok e) : (Value.expression e).Sound rules P := by
  cases request with
  | property member object =>
    obtain ⟨member, _, h⟩ := bind_eq_ok_iff.mp h
    obtain ⟨o, ho, h⟩ := bind_eq_ok_iff.mp h
    have made := attempt_eq_ok_iff.mp h
    have top := given e (.property made)
    obtain ⟨_, rfl⟩ := Expr.mkProperty_eq_ok_iff.mp made
    exact Value.sound_expression top (List.forall_mem_singleton.mpr (sound_of_expression held ho))
  | navigation relationship fromEnd toEnd source =>
    obtain ⟨relationship, _, h⟩ := bind_eq_ok_iff.mp h
    obtain ⟨fromEnd, _, h⟩ := bind_eq_ok_iff.mp h
    obtain ⟨toEnd, _, h⟩ := bind_eq_ok_iff.mp h
    obtain ⟨o, ho, h⟩ := bind_eq_ok_iff.mp h
    have made := attempt_eq_ok_iff.mp h
    have top := given e (.navigation made)
    obtain ⟨_, _, rfl⟩ := Expr.mkNavigation_eq_ok_iff.mp made
    exact Value.sound_expression top (List.forall_mem_singleton.mpr (sound_of_expression held ho))
  | ref set keys =>
    obtain ⟨set, _, h⟩ := bind_eq_ok_iff.mp h
    obtain ⟨o, ho, h⟩ := bind_eq_ok_iff.mp h
    have made := attempt_eq_ok_iff.mp h
    have top := given e (.ref made)
    obtain ⟨_, rfl⟩ := Expr.mkRef_eq_ok_iff.mp made
    exact Value.sound_expression top (List.forall_mem_singleton.mpr (sound_of_expression held ho))
  | deref reference =>
    obtain ⟨o, ho, h⟩ := bind_eq_ok_iff.mp h
    have made := attempt_eq_ok_iff.mp h
    have top := given e (.deref made)
    obtain ⟨_, _, rfl⟩ := Expr.mkDeref_eq_ok_iff.mp made
    exact Value.sound_expression top (List.forall_mem_singleton.mpr (sound_of_expression held ho))
  | scan extent =>
    obtain ⟨extent, _, h⟩ := bind_eq_ok_iff.mp h
    have made := attempt_eq_ok_iff.mp h
    have top := given e (.scan made)
    obtain ⟨_, rfl⟩ := Expr.mkScan_eq_ok_iff.mp made
    exact Value.sound_leaf top rfl
  | function f arguments =>
    obtain ⟨f, _, h⟩ := bind_eq_ok_iff.mp h
    obtain ⟨es, hes, h⟩ := bind_eq_ok_iff.mp h
    have made := attempt_eq_ok_iff.mp h
    have top := given e (.function made)
    obtain ⟨_, _, _, _, rfl⟩ := Expr.mkFunction_eq_ok_iff.mp made
    exact Value.sound_expression top (sound_of_expressions held hes)
  | lambda l arguments =>
    obtain ⟨l, hl, h⟩ := bind_eq_ok_iff.mp h
    obtain ⟨es, hes, h⟩ := bind_eq_ok_iff.mp h
    have made := attempt_eq_ok_iff.mp h
    have applied := sound_of_lambda held hl
    have top := given e (.lambda applied.founded made)
    obtain ⟨_, _, rfl⟩ := Expr.mkInvocation_eq_ok_iff.mp made
    exact Value.sound_invocation top (sound_of_expressions held hes) applied
  | newInstance elements =>
    obtain ⟨es, hes, h⟩ := bind_eq_ok_iff.mp h
    have made := attempt_eq_ok_iff.mp h
    have top := given e (.newInstance made)
    obtain ⟨_, rfl⟩ := Expr.mkNewInstance_eq_ok_iff.mp made
    exact Value.sound_ofElements top (sound_of_expressions held hes)
  | newEntity elements related =>
    obtain ⟨es, hes, h⟩ := bind_eq_ok_iff.mp h
    obtain ⟨rs, hrs, h⟩ := bind_eq_ok_iff.mp h
    have made := attempt_eq_ok_iff.mp h
    have related := sound_of_related held hrs
    have top := given e (.newEntity (fun r hr => (related r hr).founded) made)
    obtain ⟨_, _, rfl⟩ := Expr.mkEntityInstance_eq_ok_iff.mp made
    exact Value.sound_newInstance top (sound_of_expressions held hes) related

/-- The nodes of an optional expression that was looked up. -/
theorem sound_of_returning (held : ∀ w, s.Has w → w.Sound rules P) {name : Option String} {e : Option Expr}
    (h : name.mapM s.expression = .ok e) : ∀ x ∈ e.toList, ∀ n ∈ x.preorder, P n := by
  cases name with
  | none =>
    obtain rfl := pure_eq_ok_iff.mp h
    exact fun x hx => absurd hx List.not_mem_nil
  | some name =>
    obtain ⟨x, hx, h⟩ := bind_eq_ok_iff.mp h
    obtain rfl := pure_eq_ok_iff.mp h
    exact List.forall_mem_singleton.mpr (sound_of_expression held hx)

/-- **One command.** A command has the nodes of what it is assembled from. -/
theorem CommandRequest.sound_of_perform (held : ∀ w, s.Has w → w.Sound rules P) {request : CommandRequest}
    {c : Command} (h : request.perform rules s = .ok c) : (Value.command c).Sound rules P := by
  suffices parts : ∀ e ∈ c.statement.expressions, ∀ n ∈ e.preorder, P n from
    ⟨Value.forall_nodes_iff.mpr parts, trivial⟩
  cases request with
  | query e =>
    obtain ⟨q, hq, h⟩ := bind_eq_ok_iff.mp h
    obtain ⟨_, _, rfl⟩ := Command.assemble_eq_ok_iff.mp (attempt_eq_ok_iff.mp h)
    exact List.forall_mem_singleton.mpr (sound_of_expression held hq)
  | insert target given returning =>
    obtain ⟨b, hb, h⟩ := bind_eq_ok_iff.mp h
    obtain ⟨given, hgiven, h⟩ := bind_eq_ok_iff.mp h
    obtain ⟨returned, hr, h⟩ := bind_eq_ok_iff.mp h
    obtain ⟨_, clauses, made, h⟩ := Command.insert_eq_ok_iff.mp (attempt_eq_ok_iff.mp h)
    obtain ⟨_, _, rfl⟩ := Command.assemble_eq_ok_iff.mp h
    have values := sound_of_namedExpressions held hgiven
    rw [← SetClause.values_of_forall₂_fits made] at values
    exact List.forall_mem_append.mpr
      ⟨List.forall_mem_cons.mpr ⟨(sound_of_binding held hb).source, values⟩, sound_of_returning held hr⟩
  | update target predicate given returning =>
    obtain ⟨b, hb, h⟩ := bind_eq_ok_iff.mp h
    obtain ⟨p, hp, h⟩ := bind_eq_ok_iff.mp h
    obtain ⟨given, hgiven, h⟩ := bind_eq_ok_iff.mp h
    obtain ⟨returned, hr, h⟩ := bind_eq_ok_iff.mp h
    obtain ⟨_, _, clauses, made, h⟩ := Command.update_eq_ok_iff.mp (attempt_eq_ok_iff.mp h)
    obtain ⟨_, _, rfl⟩ := Command.assemble_eq_ok_iff.mp h
    have values := sound_of_namedExpressions held hgiven
    rw [← SetClause.values_of_forall₂_fits made] at values
    refine List.forall_mem_append.mpr ⟨List.forall_mem_cons.mpr ⟨(sound_of_binding held hb).source, ?_⟩, ?_⟩
    · exact List.forall_mem_cons.mpr ⟨sound_of_expression held hp, values⟩
    · exact sound_of_returning held hr
  | delete target predicate =>
    obtain ⟨b, hb, h⟩ := bind_eq_ok_iff.mp h
    obtain ⟨p, hp, h⟩ := bind_eq_ok_iff.mp h
    obtain ⟨_, _, h⟩ := Command.delete_eq_ok_iff.mp (attempt_eq_ok_iff.mp h)
    obtain ⟨_, _, rfl⟩ := Command.assemble_eq_ok_iff.mp h
    exact forall_mem_pair (sound_of_binding held hb).source (sound_of_expression held hp)
  | function f =>
    obtain ⟨f, _, h⟩ := bind_eq_ok_iff.mp h
    obtain ⟨_, _, _, _, rfl⟩ := Command.function_eq_ok_iff.mp (attempt_eq_ok_iff.mp h)
    exact fun e he => absurd he List.not_mem_nil
  | withOptions command options =>
    obtain ⟨d, hd, h⟩ := bind_eq_ok_iff.mp h
    obtain rfl := pure_eq_ok_iff.mp h
    -- the options are no part of the statement
    exact Value.forall_nodes_iff.mp (held _ ⟨_, Session.command_eq_ok_iff.mp hd⟩).nodes

end Requests

/-! ## Runs -/

/-- Whether a request is for a node under an explicit type. -/
def Request.isExplicit : Request → Bool
  | .node _ _ => true
  | _ => false

/-- Whether a step makes a node under an explicit type. -/
def Step.isExplicit : Step → Bool
  | .make _ request => request.isExplicit
  | .drop _ => false

namespace Session

variable {rules : TypeRules} {P : Expr → Prop} {s : Session} {explicit : Bool}

/-- **One request.** Whatever is made of sound values is sound. -/
theorem sound_of_perform (built : ∀ e, Expr.Built rules e → P e)
    (given : explicit = true → ∀ e, Expr.Given rules e → P e) (held : ∀ w, s.Has w → w.Sound rules P)
    {request : Request} (allowed : request.isExplicit = true → explicit = true) {v : Value}
    (h : s.perform rules request = .ok v) : v.Sound rules P := by
  cases request with
  | model request => exact ModelRequest.sound_of_perform held h
  | build request => exact BuildRequest.sound_of_perform built held h
  | node type request =>
    obtain ⟨type, _, h⟩ := bind_eq_ok_iff.mp h
    obtain ⟨e, made, h⟩ := bind_eq_ok_iff.mp h
    obtain rfl := pure_eq_ok_iff.mp h
    exact NodeRequest.sound_of_perform (given (allowed rfl)) held made
  | part expr request =>
    obtain ⟨e, he, h⟩ := bind_eq_ok_iff.mp h
    obtain ⟨c, hc, h⟩ := bind_eq_ok_iff.mp h
    obtain rfl := pure_eq_ok_iff.mp h
    -- what is taken out is a child, whose nodes are all nodes of the whole
    have child : c ∈ e.children := PartRequest.mem_children_of_child?_eq_some (resolved_eq_ok_iff.mp hc)
    have nodes := (Expr.forall_mem_preorder_iff.mp (sound_of_expression held he)).2 c child
    have ⟨top, below⟩ := Expr.forall_mem_preorder_iff.mp nodes
    exact Value.sound_expression top below
  | command request =>
    obtain ⟨c, made, h⟩ := bind_eq_ok_iff.mp h
    obtain rfl := pure_eq_ok_iff.mp h
    exact CommandRequest.sound_of_perform held made

/-- **All that a run holds is sound.** The steps may ask for nodes under an explicit type only if these have
    the property as well. -/
theorem sound_run (built : ∀ e, Expr.Built rules e → P e)
    (given : explicit = true → ∀ e, Expr.Given rules e → P e) {steps : List Step}
    (allowed : ∀ t ∈ steps, t.isExplicit = true → explicit = true) :
    ∀ w, (empty.run rules steps).Has w → w.Sound rules P := by
  refine @forall_has_run rules empty _ (fun request => request.isExplicit = true → explicit = true) ?_ steps ?_ ?_
  · intro s request v ok held made
    exact sound_of_perform built given held ok made
  · exact fun name request h => allowed _ h
  · exact fun w hw => absurd hw not_has_empty

end Session
end EntityQuery
