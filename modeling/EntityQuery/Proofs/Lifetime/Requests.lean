import EntityQuery.Proofs.Command.Acceptance
import EntityQuery.Proofs.Expr.Passes
import EntityQuery.Proofs.Lifetime.Supply
import EntityQuery.Proofs.Session.Construction
/-!
# `Proofs.Lifetime.Requests` — every request is supplied

Whatever is asked for, the value that is made of it is supplied by the session: of what the session owns, and
of new values. There are two conditions. The type rules must not bring in types of their own, for these
could hold anything. And a walk may start from an end alone, which does not hold its relationship: there the
session must be one in which a relationship that is alive is also owned.

## Contents
* `TypeRules.Extract`, rules without types of their own; `Session.Upgrades`, alive means owned.
* `supplies_of_perform_model`, `supplies_of_perform_build`, `supplies_of_perform_node`,
  `supplies_of_perform_command` — one lemma for each family of requests.
* `supplies_of_perform` — one request.
-/

namespace EntityQuery
namespace Session

variable {s : Session} {made v w : Value}

/-! ## Model data -/

/-- The ends of a relationship that is declared are of held entities. -/
theorem has_of_resolve_ends {specs : List EndSpec} {ends : List (EndDecl TypeUse)}
    (resolved : specs.mapM (·.resolve s) = .ok ends) : ∀ d ∈ ends, s.Owns (.entity d.entity) := by
  have found := mapM_eq_ok_iff.mp resolved
  clear resolved
  induction found with
  | nil => exact List.forall_mem_nil _
  | cons first _ ih =>
    obtain ⟨e, he, h⟩ := bind_eq_ok_iff.mp first
    obtain rfl := pure_eq_ok_iff.mp h
    exact List.forall_mem_cons.mpr ⟨owns_of_find? (entity_eq_ok_iff.mp he), ih⟩

/-- **A relationship is new when it is declared,** with its ends, of entities that are held. -/
theorem supplies_declared {name : QualifiedName} {ends : List (EndDecl TypeUse)}
    (held : ∀ d ∈ ends, s.Owns (.entity d.entity)) :
    s.Supplies (.relationship (.declare (.root s.site) name ends))
      (.relationship (.declare (.root s.site) name ends)) := by
  refine .new ⟨Value.noted_relationship, ?_, nofun, nofun⟩ ?_
  · intro r same
    obtain rfl := Value.relationship.inj same
    exact ⟨rfl, rfl⟩
  · intro w hw
    obtain ⟨e, he, rfl⟩ := List.mem_map.mp hw
    obtain ⟨i, _, rfl⟩ := List.mem_map.mp he
    have entity := held _ (List.getElem_mem i.isLt)
    refine .new ⟨trivial, nofun, ?_, nofun⟩ (List.forall_mem_singleton.mpr (.owned entity))
    intro e same
    obtain rfl := Value.relationshipEnd.inj same
    exact ⟨rfl, entity⟩

/-- **Model data** is made of what is held, and new declarations. -/
theorem supplies_of_perform_model {request : ModelRequest} (h : request.perform s = .ok v) : s.Supplies v v := by
  cases request with
  | type spec =>
    obtain ⟨t, resolved, h⟩ := bind_eq_ok_iff.mp h
    obtain rfl := pure_eq_ok_iff.mp h
    exact supplies_of_resolve spec resolved
  | enumeration name underlying members =>
    obtain ⟨e, _, h⟩ := bind_eq_ok_iff.mp h
    obtain rfl := pure_eq_ok_iff.mp h
    exact supplies_enumeration
  | entity name base properties =>
    obtain ⟨declared, resolved, h⟩ := bind_eq_ok_iff.mp h
    have each : ∀ p ∈ declared, s.Supplies v (.type p.type) := supplies_of_resolveEntityProperties resolved
    have types := List.forall_mem_map.mpr each
    cases base with
    | none =>
      obtain rfl := pure_eq_ok_iff.mp h
      refine .new ⟨Value.noted_entity, nofun, nofun, nofun⟩ (List.forall_mem_append.mpr ⟨types, ?_⟩)
      exact List.forall_mem_nil _
    | some base =>
      obtain ⟨b, found, h⟩ := bind_eq_ok_iff.mp h
      obtain rfl := pure_eq_ok_iff.mp h
      refine .new ⟨Value.noted_entity, nofun, nofun, nofun⟩ (List.forall_mem_append.mpr ⟨types, ?_⟩)
      exact List.forall_mem_singleton.mpr (supplies_of_find? (entity_eq_ok_iff.mp found))
  | complex name properties =>
    obtain ⟨declared, resolved, h⟩ := bind_eq_ok_iff.mp h
    obtain rfl := pure_eq_ok_iff.mp h
    exact .new ⟨Value.noted_complex, nofun, nofun, nofun⟩
      (List.forall_mem_map.mpr (supplies_of_resolveColumns properties resolved))
  | relationship name specs =>
    obtain ⟨ends, resolved, h⟩ := bind_eq_ok_iff.mp h
    obtain rfl := pure_eq_ok_iff.mp h
    exact supplies_declared (has_of_resolve_ends resolved)
  | relationshipEnd joined name =>
    obtain ⟨r, found, h⟩ := bind_eq_ok_iff.mp h
    obtain ⟨e, has, h⟩ := bind_eq_ok_iff.mp h
    obtain rfl := pure_eq_ok_iff.mp h
    obtain ⟨rfl, _⟩ := RelationshipType.end?_eq_some (present_eq_ok_iff.mp has)
    exact supplies_relationshipEnd (supplies_of_find? (relationship_eq_ok_iff.mp found))
  | navigation name joined fromEnd toEnd =>
    obtain ⟨r, found, h⟩ := bind_eq_ok_iff.mp h
    obtain ⟨n, has, h⟩ := bind_eq_ok_iff.mp h
    obtain rfl := pure_eq_ok_iff.mp h
    obtain ⟨i, _, has⟩ := Option.bind_eq_some_iff.mp (present_eq_ok_iff.mp has)
    obtain ⟨j, _, has⟩ := Option.bind_eq_some_iff.mp has
    obtain rfl := Option.some.inj has
    exact supplies_plain trivial
      (List.forall_mem_singleton.mpr (supplies_of_find? (relationship_eq_ok_iff.mp found)))
  | function name parameters returns =>
    obtain ⟨declared, resolved, h⟩ := bind_eq_ok_iff.mp h
    obtain ⟨returned, hr, h⟩ := bind_eq_ok_iff.mp h
    have types : ∀ p ∈ declared, s.Supplies v (.type p.type) := supplies_of_resolveColumns parameters resolved
    have result : ∀ t ∈ returned.toList, s.Supplies v (.type t) := by
      cases returns with
      | none =>
        obtain rfl := pure_eq_ok_iff.mp hr
        exact List.forall_mem_nil _
      | some spec =>
        obtain ⟨t, resolved, hr⟩ := bind_eq_ok_iff.mp hr
        obtain rfl := pure_eq_ok_iff.mp hr
        exact List.forall_mem_singleton.mpr (supplies_of_resolve spec resolved)
    obtain rfl := pure_eq_ok_iff.mp h
    refine supplies_plain trivial (List.forall_mem_append.mpr ⟨?_, List.forall_mem_map.mpr result⟩)
    rw [List.map_map]
    exact List.forall_mem_map.mpr types
  | entitySet container name element =>
    obtain ⟨e, found, h⟩ := bind_eq_ok_iff.mp h
    obtain rfl := pure_eq_ok_iff.mp h
    exact supplies_plain trivial (List.forall_mem_singleton.mpr (supplies_of_find? (entity_eq_ok_iff.mp found)))
  | relationshipSet container name element =>
    obtain ⟨r, found, h⟩ := bind_eq_ok_iff.mp h
    obtain rfl := pure_eq_ok_iff.mp h
    exact supplies_plain trivial
      (List.forall_mem_singleton.mpr (supplies_of_find? (relationship_eq_ok_iff.mp found)))

/-! ## Nodes under an explicit type -/

section Nodes

variable {rules : TypeRules}

/-- A member that is asked for holds what is held. -/
theorem supplies_of_resolve_member {h : Handle} {spec : MemberSpec} {m : Member}
    (resolved : spec.resolve s h = .ok m) :
    ∀ w ∈ m.owned, s.Supplies made w := by
  cases spec with
  | property object name =>
    obtain ⟨t, object', resolved⟩ := bind_eq_ok_iff.mp resolved
    obtain ⟨p, found, resolved⟩ := bind_eq_ok_iff.mp resolved
    obtain rfl := pure_eq_ok_iff.mp resolved
    have type : s.Supplies made (.type t) := supplies_of_resolve object object'
    have found := reaches_of_structuralProperty? (resolved_eq_ok_iff.mp found)
    exact List.forall_mem_singleton.mpr (type.reached found)
  | navigation name =>
    obtain ⟨n, found, resolved⟩ := bind_eq_ok_iff.mp resolved
    obtain rfl := pure_eq_ok_iff.mp resolved
    exact List.forall_mem_singleton.mpr (supplies_of_find? (navigation_eq_ok_iff.mp found))
  | relationshipEnd name =>
    obtain ⟨e, found, resolved⟩ := bind_eq_ok_iff.mp resolved
    obtain rfl := pure_eq_ok_iff.mp resolved
    exact List.forall_mem_singleton.mpr (supplies_of_find? (relationshipEnd_eq_ok_iff.mp found))
  | enumMember enumeration name =>
    obtain ⟨e, _, resolved⟩ := bind_eq_ok_iff.mp resolved
    obtain ⟨m, _, resolved⟩ := bind_eq_ok_iff.mp resolved
    obtain rfl := pure_eq_ok_iff.mp resolved
    exact List.forall_mem_nil _

/-- **One node under a given type** is made of the type and of what is held. -/
theorem supplies_of_perform_node {type : TypeUse} (typed : s.Supplies made (.type type)) {request : NodeRequest}
    {e : Expr} (h : request.perform rules s type = .ok e) : s.Supplies made (.expression e) := by
  cases request with
  | property member object =>
    obtain ⟨m, hm, h⟩ := bind_eq_ok_iff.mp h
    obtain ⟨o, ho, h⟩ := bind_eq_ok_iff.mp h
    obtain ⟨_, rfl⟩ := Expr.mkProperty_eq_ok_iff.mp (attempt_eq_ok_iff.mp h)
    refine supplies_expression typed (List.forall_mem_append.mpr ⟨supplies_of_resolve_member hm, ?_⟩)
    exact List.forall_mem_singleton.mpr (supplies_of_expression ho)
  | navigation relationship fromEnd toEnd source =>
    obtain ⟨r, hr, h⟩ := bind_eq_ok_iff.mp h
    obtain ⟨f, hf, h⟩ := bind_eq_ok_iff.mp h
    obtain ⟨t, ht, h⟩ := bind_eq_ok_iff.mp h
    obtain ⟨o, ho, h⟩ := bind_eq_ok_iff.mp h
    obtain ⟨_, _, rfl⟩ := Expr.mkNavigation_eq_ok_iff.mp (attempt_eq_ok_iff.mp h)
    have relationship : s.Supplies made (.relationship r) := supplies_of_find? (relationship_eq_ok_iff.mp hr)
    refine supplies_expression typed (List.forall_mem_cons.mpr ⟨relationship, List.forall_mem_cons.mpr ⟨?_, ?_⟩⟩)
    · exact supplies_of_find? (relationshipEnd_eq_ok_iff.mp hf)
    · exact supplies_pair (supplies_of_find? (relationshipEnd_eq_ok_iff.mp ht)) (supplies_of_expression ho)
  | function name arguments =>
    obtain ⟨f, hf, h⟩ := bind_eq_ok_iff.mp h
    obtain ⟨es, hes, h⟩ := bind_eq_ok_iff.mp h
    obtain ⟨_, _, _, _, rfl⟩ := Expr.mkFunction_eq_ok_iff.mp (attempt_eq_ok_iff.mp h)
    exact supplies_call typed (supplies_of_find? (function_eq_ok_iff.mp hf)) (supplies_of_expressions hes)
  | lambda name arguments =>
    obtain ⟨l, hl, h⟩ := bind_eq_ok_iff.mp h
    obtain ⟨es, hes, h⟩ := bind_eq_ok_iff.mp h
    obtain ⟨_, _, rfl⟩ := Expr.mkInvocation_eq_ok_iff.mp (attempt_eq_ok_iff.mp h)
    exact supplies_invocation typed (supplies_of_find? (lambda_eq_ok_iff.mp hl)) (supplies_of_expressions hes)
  | newInstance elements =>
    obtain ⟨es, hes, h⟩ := bind_eq_ok_iff.mp h
    obtain ⟨_, rfl⟩ := Expr.mkNewInstance_eq_ok_iff.mp (attempt_eq_ok_iff.mp h)
    exact supplies_newInstance typed (supplies_of_expressions hes)
  | newEntity elements related =>
    obtain ⟨es, hes, h⟩ := bind_eq_ok_iff.mp h
    obtain ⟨rs, hrs, h⟩ := bind_eq_ok_iff.mp h
    obtain ⟨_, _, rfl⟩ := Expr.mkEntityInstance_eq_ok_iff.mp (attempt_eq_ok_iff.mp h)
    exact supplies_entityInstance typed (supplies_of_expressions hes) (supplies_of_relateds hrs)
  | ref name keys =>
    obtain ⟨set, hset, h⟩ := bind_eq_ok_iff.mp h
    obtain ⟨k, hk, h⟩ := bind_eq_ok_iff.mp h
    obtain ⟨_, rfl⟩ := Expr.mkRef_eq_ok_iff.mp (attempt_eq_ok_iff.mp h)
    exact supplies_expression typed
      (supplies_pair (supplies_of_find? (entitySet_eq_ok_iff.mp hset)) (supplies_of_expression hk))
  | deref reference =>
    obtain ⟨x, hx, h⟩ := bind_eq_ok_iff.mp h
    obtain ⟨_, _, rfl⟩ := Expr.mkDeref_eq_ok_iff.mp (attempt_eq_ok_iff.mp h)
    exact supplies_expression typed (List.forall_mem_singleton.mpr (supplies_of_expression hx))
  | scan name =>
    obtain ⟨x, hx, h⟩ := bind_eq_ok_iff.mp h
    obtain ⟨_, rfl⟩ := Expr.mkScan_eq_ok_iff.mp (attempt_eq_ok_iff.mp h)
    exact supplies_expression typed
      (List.forall_mem_singleton.mpr (supplies_of_find? (extent_eq_ok_iff.mp hx)))

end Nodes

end Session

/-! ## Expressions with derived types -/

/-- **Upgrading finds an owner.** Where the relationship of an owned end is alive, it is owned. -/
def Session.Upgrades (s : Session) : Prop :=
  ∀ e : RelationshipEnd, s.Owns (.relationshipEnd e) → s.alive e.relationship.id = true →
    s.Owns (.relationship e.relationship)

/-- **Rules without types of their own.** What they answer with lies in the type they are asked about. -/
structure TypeRules.Extract (rules : TypeRules) : Prop where
  element : ∀ t u : TypeUse, rules.element? t.shape = some u → (Value.type t).Reaches (.type u)
  target : ∀ (t : TypeUse) (e : Entity), rules.referenceTarget? t.shape = some e → (Value.type t).Reaches (.entity e)

/-- The rules of the model have no types of their own, and neither have rules that only compare differently. -/
theorem TypeRules.extract_of_same {rules : TypeRules} (element : rules.element? = standard.element?)
    (target : rules.referenceTarget? = standard.referenceTarget?) : rules.Extract where
  element t u h := by
    rw [element, standard_element?_eq_some_iff] at h
    refine Value.reaches_of_mem_owned ?_
    rw [Value.owned, h]
    exact List.mem_cons_self
  target t e h := by
    rw [target, standard_referenceTarget?_eq_some_iff] at h
    refine Value.reaches_of_mem_owned ?_
    rw [Value.owned, h]
    exact List.mem_cons_self

namespace Session

section Requests

variable {rules : TypeRules} {s : Session} {made v w : Value} (extract : rules.Extract) (upgrades : s.Upgrades)
include extract upgrades

/-- **One call of the builder** makes its value of the operands, which are held. -/
theorem supplies_of_perform_build {request : BuildRequest} (h : request.perform rules s = .ok v) :
    s.Supplies made v := by
  cases request with
  | constant value =>
    obtain ⟨literal, _, h⟩ := bind_eq_ok_iff.mp h
    obtain ⟨e, built, rfl⟩ := attemptExpression_eq_ok_iff.mp h
    obtain ⟨_, _, rfl⟩ := Builder.constant_eq_ok_iff.mp built
    exact supplies_expression supplies_primitive (List.forall_mem_nil _)
  | constantOf spec value =>
    obtain ⟨type, resolved, h⟩ := bind_eq_ok_iff.mp h
    obtain ⟨literal, _, h⟩ := bind_eq_ok_iff.mp h
    obtain ⟨e, built, rfl⟩ := attemptExpression_eq_ok_iff.mp h
    obtain ⟨_, _, rfl⟩ := Builder.constantOf_eq_ok_iff.mp built
    exact supplies_expression (supplies_of_resolve spec resolved) (List.forall_mem_nil _)
  | null spec =>
    obtain ⟨type, resolved, h⟩ := bind_eq_ok_iff.mp h
    obtain rfl := pure_eq_ok_iff.mp h
    exact supplies_expression (supplies_of_resolve spec resolved) (List.forall_mem_nil _)
  | variableReference name spec =>
    obtain ⟨type, resolved, h⟩ := bind_eq_ok_iff.mp h
    obtain ⟨e, built, rfl⟩ := attemptExpression_eq_ok_iff.mp h
    obtain ⟨_, rfl⟩ := Builder.variableReference_eq_ok_iff.mp built
    exact supplies_expression (supplies_of_resolve spec resolved) (List.forall_mem_nil _)
  | parameterReference name spec =>
    obtain ⟨type, resolved, h⟩ := bind_eq_ok_iff.mp h
    obtain ⟨e, built, rfl⟩ := attemptExpression_eq_ok_iff.mp h
    obtain ⟨_, rfl⟩ := Builder.parameterReference_eq_ok_iff.mp built
    exact supplies_expression (supplies_of_resolve spec resolved) (List.forall_mem_nil _)
  -- members and walks
  | property object name =>
    obtain ⟨o, ho, h⟩ := bind_eq_ok_iff.mp h
    obtain ⟨e, built, rfl⟩ := attemptExpression_eq_ok_iff.mp h
    obtain ⟨m, t, found, typed, rfl⟩ := Builder.property_eq_ok_iff.mp built
    have object : s.Supplies made (.expression o) := supplies_of_expression ho
    have parts := supplies_of_member? (supplies_exprType object) found
    refine supplies_expression (supplies_memberType parts typed) (List.forall_mem_append.mpr ⟨parts, ?_⟩)
    exact List.forall_mem_singleton.mpr object
  | navigationProperty object navigation =>
    obtain ⟨o, ho, h⟩ := bind_eq_ok_iff.mp h
    obtain ⟨n, hn, h⟩ := bind_eq_ok_iff.mp h
    obtain ⟨e, built, rfl⟩ := attemptExpression_eq_ok_iff.mp h
    obtain ⟨_, rfl⟩ := Builder.navigationProperty_eq_ok_iff.mp built
    have navigation : s.Supplies made (.navigation n) := supplies_of_find? (navigation_eq_ok_iff.mp hn)
    exact supplies_expression (supplies_navigationType navigation)
      (supplies_pair navigation (supplies_of_expression ho))
  | navigate source fromEnd toEnd =>
    obtain ⟨o, ho, h⟩ := bind_eq_ok_iff.mp h
    obtain ⟨f, hf, h⟩ := bind_eq_ok_iff.mp h
    obtain ⟨t, ht, h⟩ := bind_eq_ok_iff.mp h
    obtain ⟨e, built, rfl⟩ := attemptExpression_eq_ok_iff.mp h
    obtain ⟨alive, _, _, rfl⟩ := Builder.navigate_eq_ok_iff.mp built
    have fromEnd := relationshipEnd_eq_ok_iff.mp hf
    have toEnd : s.Supplies made (.relationshipEnd t) := supplies_of_find? (relationshipEnd_eq_ok_iff.mp ht)
    -- the relationship is alive, so something held still reaches it
    have relationship : s.Supplies made (.relationship f.relationship) :=
      .owned (upgrades f (owns_of_find? fromEnd) alive)
    refine supplies_expression (supplies_walkType toEnd) (List.forall_mem_cons.mpr ⟨relationship, ?_⟩)
    exact List.forall_mem_cons.mpr ⟨supplies_of_find? fromEnd, supplies_pair toEnd (supplies_of_expression ho)⟩
  | function name arguments =>
    obtain ⟨f, hf, h⟩ := bind_eq_ok_iff.mp h
    obtain ⟨es, hes, h⟩ := bind_eq_ok_iff.mp h
    obtain ⟨e, built, rfl⟩ := attemptExpression_eq_ok_iff.mp h
    obtain ⟨returned, hr, _, rfl⟩ := Builder.function_eq_ok_iff.mp built
    have function : s.Supplies made (.function f) := supplies_of_find? (function_eq_ok_iff.mp hf)
    exact supplies_call (supplies_returnType function hr) function (supplies_of_expressions hes)
  | lambda specs body =>
    obtain ⟨formals, resolved, h⟩ := bind_eq_ok_iff.mp h
    obtain ⟨e, he, h⟩ := bind_eq_ok_iff.mp h
    obtain ⟨l, built, h⟩ := bind_eq_ok_iff.mp h
    obtain rfl := pure_eq_ok_iff.mp h
    obtain ⟨_, _, rfl⟩ := Builder.lambda_eq_ok_iff.mp (attempt_eq_ok_iff.mp built)
    refine supplies_plain trivial (List.forall_mem_append.mpr ⟨?_, ?_⟩)
    · rw [List.map_map, List.map_map]
      exact List.forall_mem_map.mpr (supplies_of_resolveColumns specs resolved)
    · exact List.forall_mem_singleton.mpr (supplies_of_expression he)
  | invoke name arguments =>
    obtain ⟨l, hl, h⟩ := bind_eq_ok_iff.mp h
    obtain ⟨es, hes, h⟩ := bind_eq_ok_iff.mp h
    obtain ⟨e, built, rfl⟩ := attemptExpression_eq_ok_iff.mp h
    obtain ⟨_, rfl⟩ := Builder.invoke_eq_ok_iff.mp built
    have lambda : s.Supplies made (.lambda l) := supplies_of_find? (lambda_eq_ok_iff.mp hl)
    have body : s.Supplies made (.expression l.body) := lambda.reached (Value.lambda_reaches_body l)
    exact supplies_invocation (supplies_exprType body) lambda (supplies_of_expressions hes)
  -- instances
  | newRow pairs =>
    obtain ⟨columns, hc, h⟩ := bind_eq_ok_iff.mp h
    obtain ⟨e, built, rfl⟩ := attemptExpression_eq_ok_iff.mp h
    obtain ⟨_, rfl⟩ := Builder.newRow_eq_ok_iff.mp built
    have each : ∀ c ∈ columns, s.Supplies made (.expression c.2) := supplies_of_namedExpressions hc
    refine supplies_newInstance (supplies_rowType ?_) (List.forall_mem_map.mpr each)
    exact List.forall_mem_map.mpr fun c hc => supplies_exprType (each c hc)
  | newInstance spec elements =>
    obtain ⟨type, resolved, h⟩ := bind_eq_ok_iff.mp h
    obtain ⟨es, hes, h⟩ := bind_eq_ok_iff.mp h
    obtain ⟨e, built, rfl⟩ := attemptExpression_eq_ok_iff.mp h
    obtain ⟨_, _, rfl⟩ := Builder.newInstance_eq_ok_iff.mp built
    exact supplies_newInstance (supplies_of_resolve spec resolved) (supplies_of_expressions hes)
  | newCollection elements =>
    obtain ⟨es, hes, h⟩ := bind_eq_ok_iff.mp h
    obtain ⟨e, built, rfl⟩ := attemptExpression_eq_ok_iff.mp h
    obtain ⟨first, rest, rfl, _, rfl⟩ := Builder.newCollection_eq_ok_iff.mp built
    have each : ∀ e ∈ first :: rest, s.Supplies made (.expression e) := supplies_of_expressions hes
    exact supplies_newInstance (supplies_collectionType (supplies_exprType (each _ List.mem_cons_self))) each
  | newEmptyCollection spec =>
    obtain ⟨type, resolved, h⟩ := bind_eq_ok_iff.mp h
    obtain ⟨e, built, rfl⟩ := attemptExpression_eq_ok_iff.mp h
    obtain ⟨_, rfl⟩ := Builder.newEmptyCollection_eq_ok_iff.mp built
    exact supplies_newInstance (supplies_collectionType (supplies_of_resolve spec resolved)) (List.forall_mem_nil _)
  | newEntity name elements related =>
    obtain ⟨entity, hn, h⟩ := bind_eq_ok_iff.mp h
    obtain ⟨es, hes, h⟩ := bind_eq_ok_iff.mp h
    obtain ⟨rs, hrs, h⟩ := bind_eq_ok_iff.mp h
    obtain ⟨e, built, rfl⟩ := attemptExpression_eq_ok_iff.mp h
    obtain ⟨_, _, _, rfl⟩ := Builder.newEntity_eq_ok_iff.mp built
    exact supplies_entityInstance (supplies_entityType (supplies_of_find? (entity_eq_ok_iff.mp hn)))
      (supplies_of_expressions hes) (supplies_of_relateds hrs)
  | related source target reference =>
    obtain ⟨a, ha, h⟩ := bind_eq_ok_iff.mp h
    obtain ⟨b, hb, h⟩ := bind_eq_ok_iff.mp h
    obtain ⟨x, hx, h⟩ := bind_eq_ok_iff.mp h
    obtain ⟨r, built, h⟩ := bind_eq_ok_iff.mp h
    obtain rfl := pure_eq_ok_iff.mp h
    obtain ⟨same, _, _, _, rfl⟩ := Builder.related_eq_ok_iff.mp (attempt_eq_ok_iff.mp built)
    refine .new ⟨trivial, nofun, nofun, ?_⟩ (List.forall_mem_cons.mpr ⟨?_, supplies_pair ?_ ?_⟩)
    · intro r equal
      obtain rfl := Value.related.inj equal
      exact same
    · exact supplies_of_find? (relationshipEnd_eq_ok_iff.mp ha)
    · exact supplies_of_find? (relationshipEnd_eq_ok_iff.mp hb)
    · exact supplies_of_expression hx
  -- sets and references
  | scan name =>
    obtain ⟨x, hx, h⟩ := bind_eq_ok_iff.mp h
    obtain ⟨e, built, rfl⟩ := attemptExpression_eq_ok_iff.mp h
    obtain ⟨_, rfl⟩ := Builder.scan_eq_ok_iff.mp built
    have extent : s.Supplies made (.extent x) := supplies_of_find? (extent_eq_ok_iff.mp hx)
    exact supplies_expression (supplies_scanType extent) (List.forall_mem_singleton.mpr extent)
  | ref name keys =>
    obtain ⟨set, hset, h⟩ := bind_eq_ok_iff.mp h
    obtain ⟨es, hes, h⟩ := bind_eq_ok_iff.mp h
    obtain ⟨e, built, rfl⟩ := attemptExpression_eq_ok_iff.mp h
    obtain ⟨properties, _, _, _, _, rfl⟩ := Builder.ref_eq_ok_iff.mp built
    have extent : s.Supplies made (.extent (.entities set)) := supplies_of_find? (entitySet_eq_ok_iff.mp hset)
    have each : ∀ e ∈ es, s.Supplies made (.expression e) := supplies_of_expressions hes
    have row : s.Supplies made (.expression ((s.builder rules).keyRow set es)) := by
      refine supplies_newInstance (supplies_rowType ?_) each
      refine List.forall_mem_map.mpr fun c hc => supplies_exprType ?_
      exact each c.2 (List.of_mem_zip hc).2
    exact supplies_expression (supplies_referenceType (extent.part List.mem_cons_self)) (supplies_pair extent row)
  | deref reference =>
    obtain ⟨x, hx, h⟩ := bind_eq_ok_iff.mp h
    obtain ⟨e, built, rfl⟩ := attemptExpression_eq_ok_iff.mp h
    obtain ⟨entity, target, _, _, rfl⟩ := Builder.deref_eq_ok_iff.mp built
    have reference : s.Supplies made (.expression x) := supplies_of_expression hx
    have entity := (supplies_exprType reference).reached (extract.target _ _ target)
    exact supplies_expression (supplies_entityType entity) (List.forall_mem_singleton.mpr reference)
  -- conditions
  | compare operator left right =>
    obtain ⟨l, hl, h⟩ := bind_eq_ok_iff.mp h
    obtain ⟨r, hr, h⟩ := bind_eq_ok_iff.mp h
    obtain ⟨e, built, rfl⟩ := attemptExpression_eq_ok_iff.mp h
    obtain ⟨_, _, rfl⟩ := Builder.compare_eq_ok_iff.mp built
    exact supplies_condition (supplies_pair (supplies_of_expression hl) (supplies_of_expression hr))
  | and left right =>
    obtain ⟨l, hl, h⟩ := bind_eq_ok_iff.mp h
    obtain ⟨r, hr, h⟩ := bind_eq_ok_iff.mp h
    obtain ⟨e, built, rfl⟩ := attemptExpression_eq_ok_iff.mp h
    obtain ⟨_, _, rfl⟩ := Builder.and_eq_ok_iff.mp built
    exact supplies_condition (supplies_pair (supplies_of_expression hl) (supplies_of_expression hr))
  | or left right =>
    obtain ⟨l, hl, h⟩ := bind_eq_ok_iff.mp h
    obtain ⟨r, hr, h⟩ := bind_eq_ok_iff.mp h
    obtain ⟨e, built, rfl⟩ := attemptExpression_eq_ok_iff.mp h
    obtain ⟨_, _, rfl⟩ := Builder.or_eq_ok_iff.mp built
    exact supplies_condition (supplies_pair (supplies_of_expression hl) (supplies_of_expression hr))
  | not argument =>
    obtain ⟨x, hx, h⟩ := bind_eq_ok_iff.mp h
    obtain ⟨e, built, rfl⟩ := attemptExpression_eq_ok_iff.mp h
    obtain ⟨_, rfl⟩ := Builder.not_eq_ok_iff.mp built
    exact supplies_condition (List.forall_mem_singleton.mpr (supplies_of_expression hx))
  | isNull argument =>
    obtain ⟨x, hx, h⟩ := bind_eq_ok_iff.mp h
    obtain ⟨e, built, rfl⟩ := attemptExpression_eq_ok_iff.mp h
    obtain ⟨_, rfl⟩ := Builder.isNull_eq_ok_iff.mp built
    exact supplies_condition (List.forall_mem_singleton.mpr (supplies_of_expression hx))
  -- sets of bound elements
  | bind source name =>
    obtain ⟨x, hx, h⟩ := bind_eq_ok_iff.mp h
    obtain ⟨b, built, h⟩ := bind_eq_ok_iff.mp h
    obtain rfl := pure_eq_ok_iff.mp h
    obtain ⟨t, element, _, rfl⟩ := Builder.bind_eq_ok_iff_element.mp (attempt_eq_ok_iff.mp built)
    have source : s.Supplies made (.expression x) := supplies_of_expression hx
    exact supplies_plain trivial
      (supplies_pair source ((supplies_exprType source).reached (extract.element _ _ element)))
  | elementOf binding =>
    obtain ⟨b, hb, h⟩ := bind_eq_ok_iff.mp h
    obtain rfl := pure_eq_ok_iff.mp h
    have binding : s.Supplies made (.binding b) := supplies_of_find? (binding_eq_ok_iff.mp hb)
    exact supplies_expression (supplies_elementType binding) (List.forall_mem_nil _)
  | filter input predicate =>
    obtain ⟨b, hb, h⟩ := bind_eq_ok_iff.mp h
    obtain ⟨x, hx, h⟩ := bind_eq_ok_iff.mp h
    obtain ⟨e, built, rfl⟩ := attemptExpression_eq_ok_iff.mp h
    obtain ⟨_, rfl⟩ := Builder.filter_eq_ok_iff.mp built
    have binding : s.Supplies made (.binding b) := supplies_of_find? (binding_eq_ok_iff.mp hb)
    have source : s.Supplies made (.expression b.source) := binding.part List.mem_cons_self
    exact supplies_expression (supplies_exprType source) (supplies_pair binding (supplies_of_expression hx))
  | project input projection =>
    obtain ⟨b, hb, h⟩ := bind_eq_ok_iff.mp h
    obtain ⟨x, hx, h⟩ := bind_eq_ok_iff.mp h
    obtain rfl := pure_eq_ok_iff.mp h
    have binding : s.Supplies made (.binding b) := supplies_of_find? (binding_eq_ok_iff.mp hb)
    have projection : s.Supplies made (.expression x) := supplies_of_expression hx
    exact supplies_expression (supplies_collectionType (supplies_exprType projection))
      (supplies_pair binding projection)

end Requests

/-! ## Commands -/

section Commands

variable {rules : TypeRules} {s : Session} {made v w : Value} {statement : Statement}

/-- The clauses of a change hold properties of the type of the target, and the values that are given. -/
theorem supplies_of_fits {type : TypeUse} {given : List (String × Expr)} {clauses : List SetClause}
    (typed : s.Supplies made (.type type)) (each : ∀ g ∈ given, s.Supplies made (.expression g.2))
    (fit : List.Forall₂ (SetClause.Fits rules type) given clauses) :
    ∀ w ∈ SetClause.owned clauses, s.Supplies made w := by
  have both : ∀ c ∈ clauses, s.Supplies made (.type c.property.type) ∧ s.Supplies made (.expression c.value) := by
    induction fit with
    | nil => exact List.forall_mem_nil _
    | cons first _ ih =>
      obtain ⟨found, _, value⟩ := first
      obtain ⟨here, rest⟩ := List.forall_mem_cons.mp each
      refine List.forall_mem_cons.mpr ⟨⟨?_, value ▸ here⟩, ih rest⟩
      exact typed.reached (reaches_of_structuralProperty? found)
  refine List.forall_mem_append.mpr ⟨List.forall_mem_map.mpr ?_, List.forall_mem_map.mpr ?_⟩
  · exact fun c hc => (both c hc).1
  · exact fun c hc => (both c hc).2

/-- **A command** holds its statement and the parameters that the statement refers to. -/
theorem supplies_of_assemble {c : Command} (parts : ∀ w ∈ statement.owned, s.Supplies made w)
    (assembled : Command.assemble rules statement = .ok c) : s.Supplies made (.command c) := by
  obtain ⟨parameters, declared, rfl⟩ := Command.assemble_eq_ok_iff.mp assembled
  refine supplies_plain trivial (List.forall_mem_append.mpr ⟨parts, List.forall_mem_map.mpr ?_⟩)
  intro p hp
  have referred : p ∈ statement.parameterReferences := by
    rcases Parameters.mem_of_declareAll_eq_ok declared hp with h | h
    · exact absurd h List.not_mem_nil
    · exact h
  obtain ⟨e, he, hp⟩ := List.mem_flatMap.mp referred
  rw [Expr.parameterReferences_eq] at hp
  obtain ⟨n, hn, hp⟩ := List.mem_filterMap.mp hp
  obtain ⟨w, hw, reached⟩ := exists_owned_reaches_of_mem_expressions he
  have node := (parts w hw).reached (reached.trans (reaches_of_mem_preorder hn))
  rw [Expr.type_of_parameter? hp]
  exact supplies_exprType node

theorem supplies_of_returning {name : Option String} {e : Option Expr} (h : name.mapM s.expression = .ok e) :
    ∀ x ∈ e.toList, s.Supplies made (.expression x) := by
  cases name with
  | none =>
    obtain rfl := pure_eq_ok_iff.mp h
    exact List.forall_mem_nil _
  | some name =>
    obtain ⟨x, hx, h⟩ := bind_eq_ok_iff.mp h
    obtain rfl := pure_eq_ok_iff.mp h
    exact List.forall_mem_singleton.mpr (supplies_of_expression hx)

/-- **One command** is assembled of what is held. -/
theorem supplies_of_perform_command {request : CommandRequest} {c : Command} (h : request.perform rules s = .ok c) :
    s.Supplies made (.command c) := by
  cases request with
  | query e =>
    obtain ⟨q, hq, h⟩ := bind_eq_ok_iff.mp h
    refine supplies_of_assemble ?_ (attempt_eq_ok_iff.mp h)
    exact List.forall_mem_singleton.mpr (supplies_of_expression hq)
  | insert target given returning =>
    obtain ⟨b, hb, h⟩ := bind_eq_ok_iff.mp h
    obtain ⟨given, hgiven, h⟩ := bind_eq_ok_iff.mp h
    obtain ⟨returned, hr, h⟩ := bind_eq_ok_iff.mp h
    obtain ⟨_, clauses, fit, h⟩ := Command.insert_eq_ok_iff.mp (attempt_eq_ok_iff.mp h)
    have binding : s.Supplies made (.binding b) := supplies_of_find? (binding_eq_ok_iff.mp hb)
    have element : s.Supplies made (.type b.element.type) := supplies_elementType binding
    have set := supplies_of_fits element (supplies_of_namedExpressions hgiven) fit
    refine supplies_of_assemble (List.forall_mem_append.mpr ⟨List.forall_mem_cons.mpr ⟨binding, set⟩, ?_⟩) h
    exact List.forall_mem_map.mpr (supplies_of_returning hr)
  | update target predicate given returning =>
    obtain ⟨b, hb, h⟩ := bind_eq_ok_iff.mp h
    obtain ⟨p, hp, h⟩ := bind_eq_ok_iff.mp h
    obtain ⟨given, hgiven, h⟩ := bind_eq_ok_iff.mp h
    obtain ⟨returned, hr, h⟩ := bind_eq_ok_iff.mp h
    obtain ⟨_, _, clauses, fit, h⟩ := Command.update_eq_ok_iff.mp (attempt_eq_ok_iff.mp h)
    have binding : s.Supplies made (.binding b) := supplies_of_find? (binding_eq_ok_iff.mp hb)
    have element : s.Supplies made (.type b.element.type) := supplies_elementType binding
    have set := supplies_of_fits element (supplies_of_namedExpressions hgiven) fit
    have condition : s.Supplies made (.expression p) := supplies_of_expression hp
    have results : ∀ w ∈ returned.toList.map .expression, s.Supplies made w :=
      List.forall_mem_map.mpr (supplies_of_returning hr)
    refine supplies_of_assemble (List.forall_mem_append.mpr ⟨?_, results⟩) h
    exact List.forall_mem_cons.mpr ⟨binding, List.forall_mem_cons.mpr ⟨condition, set⟩⟩
  | delete target predicate =>
    obtain ⟨b, hb, h⟩ := bind_eq_ok_iff.mp h
    obtain ⟨p, hp, h⟩ := bind_eq_ok_iff.mp h
    obtain ⟨_, _, h⟩ := Command.delete_eq_ok_iff.mp (attempt_eq_ok_iff.mp h)
    have binding : s.Supplies made (.binding b) := supplies_of_find? (binding_eq_ok_iff.mp hb)
    refine supplies_of_assemble ?_ h
    exact supplies_pair binding (supplies_of_expression hp)
  | function name =>
    obtain ⟨f, hf, h⟩ := bind_eq_ok_iff.mp h
    obtain ⟨returned, parameters, hr, declared, rfl⟩ := Command.function_eq_ok_iff.mp (attempt_eq_ok_iff.mp h)
    have function : s.Supplies made (.function f) := supplies_of_find? (function_eq_ok_iff.mp hf)
    have result : s.Supplies made (.type returned) := supplies_returnType function hr
    refine supplies_plain trivial (List.forall_mem_append.mpr ⟨supplies_pair function result, ?_⟩)
    refine List.forall_mem_map.mpr fun p hp => ?_
    -- the parameters of the command are those of the function
    rcases Parameters.mem_of_declareAll_eq_ok declared hp with none | own
    · exact absurd none List.not_mem_nil
    · exact function.part (List.mem_append_left _ (List.mem_map_of_mem own))
  | withOptions name options =>
    obtain ⟨c, hc, h⟩ := bind_eq_ok_iff.mp h
    obtain rfl := pure_eq_ok_iff.mp h
    have command : s.Supplies made (.command c) := supplies_of_find? (command_eq_ok_iff.mp hc)
    -- the options hold nothing
    exact supplies_plain trivial fun w hw => command.part hw

end Commands

/-! ## All requests -/

/-- **One request** makes its value of what the session owns and of what is new. -/
theorem supplies_of_perform {rules : TypeRules} {s : Session} {v : Value} {request : Request}
    (extract : rules.Extract) (upgrades : s.Upgrades) (h : s.perform rules request = .ok v) : s.Supplies v v := by
  cases request with
  | model request => exact supplies_of_perform_model h
  | build request => exact supplies_of_perform_build extract upgrades h
  | node spec request =>
    obtain ⟨type, resolved, h⟩ := bind_eq_ok_iff.mp h
    obtain ⟨e, made, h⟩ := bind_eq_ok_iff.mp h
    obtain rfl := pure_eq_ok_iff.mp h
    exact supplies_of_perform_node (supplies_of_resolve spec resolved) made
  | part name request =>
    obtain ⟨e, he, h⟩ := bind_eq_ok_iff.mp h
    obtain ⟨c, hc, h⟩ := bind_eq_ok_iff.mp h
    obtain rfl := pure_eq_ok_iff.mp h
    have child : c ∈ e.children := PartRequest.mem_children_of_child?_eq_some (resolved_eq_ok_iff.mp hc)
    exact (supplies_of_expression he).reached (reaches_of_mem_children child)
  | command request =>
    obtain ⟨c, made, h⟩ := bind_eq_ok_iff.mp h
    obtain rfl := pure_eq_ok_iff.mp h
    exact supplies_of_perform_command made

end Session
end EntityQuery
