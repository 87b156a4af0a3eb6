import EntityQuery.Expr.Mention
import EntityQuery.Proofs.Builder.Acceptance
/-!
# `Proofs.Builder.Built` — nodes that a call has made

Every node of an expression was once the result of a call, and its children the operands of that call. That
is all a run of constructions guarantees about a node, and it is said here without a run: which call it was,
with the operands that the node still holds. What is wanted of nodes is then derived from the acceptance
lemmas of the one call, wherever in whatever run it took place.

## Contents
* `LambdaOf.Built`, `BindingOf.Built`, `RelatedOf.Built`, `Expr.Built` — made by the builder.
* `Expr.Given` — made under an explicit type.
* `Expr.forall_mem_preorder_iff` — a property of all nodes is one of the top node and of those below.
* `Expr.Built.isParameterName`, `Expr.Given.parameter?_eq_none` — references to parameters.
-/

namespace EntityQuery

/-! ## What the builder makes -/

/-- The builder has made the lambda of its variables and its body. -/
def LambdaOf.Built (l : Lambda) : Prop :=
  ∃ (b : Builder) (formals : List (String × TypeUse)), b.lambda formals l.body = .ok l

/-- The builder has made the binding of its source. -/
def BindingOf.Built (rules : TypeRules) (bound : Binding) : Prop :=
  ∃ (alive : Handle → Bool) (here : Handle),
    (Builder.mk rules alive here).bind bound.source bound.element.name = .ok bound

/-- The builder has made the related entity of its ends and its reference. -/
def RelatedOf.Built (rules : TypeRules) (r : Related) : Prop :=
  ∃ (alive : Handle → Bool) (here : Handle),
    (Builder.mk rules alive here).related r.source r.target r.reference = .ok r

/-- **Made by the builder.** A call of the builder under the rules made the expression; the lambda, the binding
    or the related entities among its operands were made by the builder as well, and the relationship that
    is walked is noted among those it keeps. -/
inductive Expr.Built (rules : TypeRules) : Expr → Prop
  | constant {alive here value e} (h : (Builder.mk rules alive here).constant value = .ok e) :
      Built rules e
  | constantOf {alive here type value e}
      (h : (Builder.mk rules alive here).constantOf type value = .ok e) : Built rules e
  | null {alive here type} : Built rules ((Builder.mk rules alive here).null type)
  | variableReference {alive here name type e}
      (h : (Builder.mk rules alive here).variableReference name type = .ok e) : Built rules e
  | parameterReference {alive here name type e}
      (h : (Builder.mk rules alive here).parameterReference name type = .ok e) : Built rules e
  | property {alive here object name e}
      (h : (Builder.mk rules alive here).property object name = .ok e) : Built rules e
  | navigationProperty {alive here object navigation e}
      (h : (Builder.mk rules alive here).navigationProperty object navigation = .ok e) : Built rules e
  | navigate {alive here source toEnd e} {fromEnd : RelationshipEnd}
      (noted : fromEnd.relationship.mentions fromEnd.relationship.id = true)
      (h : (Builder.mk rules alive here).navigate source fromEnd toEnd = .ok e) : Built rules e
  | function {alive here f arguments e}
      (h : (Builder.mk rules alive here).function f arguments = .ok e) : Built rules e
  | invoke {alive here l arguments e} (lambda : LambdaOf.Built l)
      (h : (Builder.mk rules alive here).invoke l arguments = .ok e) : Built rules e
  | newRow {alive here columns e}
      (h : (Builder.mk rules alive here).newRow columns = .ok e) : Built rules e
  | newInstance {alive here type elements e}
      (h : (Builder.mk rules alive here).newInstance type elements = .ok e) : Built rules e
  | newCollection {alive here elements e}
      (h : (Builder.mk rules alive here).newCollection elements = .ok e) : Built rules e
  | newEmptyCollection {alive here element e}
      (h : (Builder.mk rules alive here).newEmptyCollection element = .ok e) : Built rules e
  | newEntity {alive here entity elements related e} (joined : ∀ r ∈ related, RelatedOf.Built rules r)
      (h : (Builder.mk rules alive here).newEntity entity elements related = .ok e) : Built rules e
  | scan {alive here extent e} (h : (Builder.mk rules alive here).scan extent = .ok e) : Built rules e
  | ref {alive here set keys e} (h : (Builder.mk rules alive here).ref set keys = .ok e) : Built rules e
  | deref {alive here reference e}
      (h : (Builder.mk rules alive here).deref reference = .ok e) : Built rules e
  | compare {alive here operator left right e}
      (h : (Builder.mk rules alive here).compare operator left right = .ok e) : Built rules e
  | and {alive here left right e}
      (h : (Builder.mk rules alive here).and left right = .ok e) : Built rules e
  | or {alive here left right e} (h : (Builder.mk rules alive here).or left right = .ok e) : Built rules e
  | not {alive here argument e} (h : (Builder.mk rules alive here).not argument = .ok e) : Built rules e
  | isNull {alive here argument e}
      (h : (Builder.mk rules alive here).isNull argument = .ok e) : Built rules e
  | filter {alive here input predicate e} (bound : BindingOf.Built rules input)
      (h : (Builder.mk rules alive here).filter input predicate = .ok e) : Built rules e
  | project {alive here input projection} (bound : BindingOf.Built rules input) :
      Built rules ((Builder.mk rules alive here).project input projection)

/-- **Made under an explicit type.** The expression was made as a node of a given type, which is checked
    but not derived. -/
inductive Expr.Given (rules : TypeRules) : Expr → Prop
  | property {type member object e} (h : mkProperty type member object = .ok e) : Given rules e
  | navigation {type relationship fromEnd toEnd source e}
      (h : mkNavigation type relationship fromEnd toEnd source = .ok e) : Given rules e
  | function {type f arguments e} (h : mkFunction type f arguments = .ok e) : Given rules e
  | lambda {type l arguments e} (lambda : LambdaOf.Built l)
      (h : mkInvocation type l arguments = .ok e) : Given rules e
  | newInstance {type elements e} (h : mkNewInstance rules type elements = .ok e) : Given rules e
  | newEntity {type elements related e} (joined : ∀ r ∈ related, RelatedOf.Built rules r)
      (h : mkEntityInstance rules type elements related = .ok e) : Given rules e
  | ref {type set keys e} (h : mkRef rules type set keys = .ok e) : Given rules e
  | deref {type reference e} (h : mkDeref rules type reference = .ok e) : Given rules e
  | scan {type extent e} (h : mkScan rules type extent = .ok e) : Given rules e

/-! ## All nodes -/

/-- What holds of all nodes holds of the top node and of all nodes of its children. -/
theorem Expr.forall_mem_preorder_iff {P : Expr → Prop} {e : Expr} :
    (∀ n ∈ e.preorder, P n) ↔ P e ∧ ∀ c ∈ e.children, ∀ n ∈ c.preorder, P n := by
  rw [preorder_eq, List.forall_mem_cons]
  refine and_congr_right ?_
  intro _
  simp only [List.mem_flatMap, forall_exists_index, and_imp]
  constructor
  · intro h c hc n hn
    exact h n c hc hn
  · intro h n c hc hn
    exact h c hc n hn

/-! ## References to parameters -/

section Parameters

variable {rules : TypeRules} {e : Expr}

/-- **Parameters have proper names.** A reference to a parameter that the builder has made names it by a
    parameter name. -/
theorem Expr.Built.isParameterName {p : Parameter} (built : e.Built rules) (h : e.parameter? = some p) :
    isParameterName p.name = true := by
  cases built with
  | parameterReference made =>
    obtain ⟨named, rfl⟩ := Builder.parameterReference_eq_ok_iff.mp made
    obtain rfl := Option.some.inj h
    exact named
  -- no other call makes a reference to a parameter
  | null | project => exact absurd h (by simp [Expr.parameter?, Builder.null, Builder.project, mkNull, mkProject])
  | constant made => obtain ⟨_, _, rfl⟩ := Builder.constant_eq_ok_iff.mp made; cases h
  | constantOf made => obtain ⟨_, _, rfl⟩ := Builder.constantOf_eq_ok_iff.mp made; cases h
  | variableReference made => obtain ⟨_, rfl⟩ := Builder.variableReference_eq_ok_iff.mp made; cases h
  | property made => obtain ⟨_, _, _, _, rfl⟩ := Builder.property_eq_ok_iff.mp made; cases h
  | navigationProperty made => obtain ⟨_, rfl⟩ := Builder.navigationProperty_eq_ok_iff.mp made; cases h
  | navigate _ made => obtain ⟨_, _, _, rfl⟩ := Builder.navigate_eq_ok_iff.mp made; cases h
  | function made => obtain ⟨_, _, _, rfl⟩ := Builder.function_eq_ok_iff.mp made; cases h
  | invoke _ made => obtain ⟨_, rfl⟩ := Builder.invoke_eq_ok_iff.mp made; cases h
  | newRow made => obtain ⟨_, rfl⟩ := Builder.newRow_eq_ok_iff.mp made; cases h
  | newInstance made => obtain ⟨_, _, rfl⟩ := Builder.newInstance_eq_ok_iff.mp made; cases h
  | newCollection made => obtain ⟨_, _, _, _, rfl⟩ := Builder.newCollection_eq_ok_iff.mp made; cases h
  | newEmptyCollection made => obtain ⟨_, rfl⟩ := Builder.newEmptyCollection_eq_ok_iff.mp made; cases h
  | newEntity _ made => obtain ⟨_, _, _, rfl⟩ := Builder.newEntity_eq_ok_iff.mp made; cases h
  | scan made => obtain ⟨_, rfl⟩ := Builder.scan_eq_ok_iff.mp made; cases h
  | ref made => obtain ⟨_, _, _, _, _, rfl⟩ := Builder.ref_eq_ok_iff.mp made; cases h
  | deref made => obtain ⟨_, _, _, _, rfl⟩ := Builder.deref_eq_ok_iff.mp made; cases h
  | compare made => obtain ⟨_, _, rfl⟩ := Builder.compare_eq_ok_iff.mp made; cases h
  | and made => obtain ⟨_, _, rfl⟩ := Builder.and_eq_ok_iff.mp made; cases h
  | or made => obtain ⟨_, _, rfl⟩ := Builder.or_eq_ok_iff.mp made; cases h
  | not made => obtain ⟨_, rfl⟩ := Builder.not_eq_ok_iff.mp made; cases h
  | isNull made => obtain ⟨_, rfl⟩ := Builder.isNull_eq_ok_iff.mp made; cases h
  | filter _ made => obtain ⟨_, rfl⟩ := Builder.filter_eq_ok_iff.mp made; cases h

/-- A node made under an explicit type is not a reference to a parameter. -/
theorem Expr.Given.parameter?_eq_none (given : e.Given rules) : e.parameter? = none := by
  cases given with
  | property made => obtain ⟨_, rfl⟩ := mkProperty_eq_ok_iff.mp made; rfl
  | navigation made => obtain ⟨_, _, rfl⟩ := mkNavigation_eq_ok_iff.mp made; rfl
  | function made => obtain ⟨_, _, _, _, rfl⟩ := mkFunction_eq_ok_iff.mp made; rfl
  | lambda _ made => obtain ⟨_, _, rfl⟩ := mkInvocation_eq_ok_iff.mp made; rfl
  | newInstance made => obtain ⟨_, rfl⟩ := mkNewInstance_eq_ok_iff.mp made; rfl
  | newEntity _ made => obtain ⟨_, _, rfl⟩ := mkEntityInstance_eq_ok_iff.mp made; rfl
  | ref made => obtain ⟨_, rfl⟩ := mkRef_eq_ok_iff.mp made; rfl
  | deref made => obtain ⟨_, _, rfl⟩ := mkDeref_eq_ok_iff.mp made; rfl
  | scan made => obtain ⟨_, rfl⟩ := mkScan_eq_ok_iff.mp made; rfl

end Parameters
end EntityQuery
