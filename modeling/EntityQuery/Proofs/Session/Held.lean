import EntityQuery.Proofs.Expr.Acceptance
import EntityQuery.Session.Run
/-!
# `Proofs.Session.Held` — what a session holds, along a run

A session changes what it holds in two ways only: it holds a value that a request has just made, or it lets
values go. So whatever every request makes out of held values that have a property has it too, every value
held in a run has it. That induction over runs is done here once; an invariant of sessions is then a
statement about one request.

## Contents
* `Session.Has`, `has_of_has_step` — what is held after a step was held before or has just been made.
* `forall_has_run` — the induction over runs.
* `expression_eq_ok_iff` and the like — a look-up finds what is held.
* `Value.roots`, `Value.nodes`, `Session.Holds` — the expressions in a value, and all their nodes.
-/

namespace EntityQuery

namespace Session

variable {rules : TypeRules} {s : Session}

/-! ## What is held -/

/-- The session holds the value, under some name. -/
def Has (s : Session) (v : Value) : Prop := ∃ name, s.find? name = some v

theorem find?_eq_some_iff {name : String} {v : Value} :
    s.find? name = some v ↔ (s.held.find? (·.1 == name)) = some (name, v) := by
  rw [find?, Option.map_eq_some_iff]
  constructor
  · rintro ⟨⟨n, w⟩, h, rfl⟩
    have same : n = name := by simpa using List.find?_some h
    rw [h, same]
  · intro h
    exact ⟨_, h, rfl⟩

/-- A name that is held anew gives the new value, every other name what it gave before. -/
theorem find?_hold {name n : String} {v : Value} :
    (s.hold name v).find? n = if n = name then some v else s.find? n := by
  rw [find?, hold, List.find?_cons]
  by_cases h : n = name
  · simp [h]
  · have other : ((name, v).1 == n) = false := by simpa using Ne.symm h
    -- the entries of other names are all still there
    have same : (fun entry : String × Value => decide ((entry.1 != name) = true ∧ (entry.1 == n) = true)) =
        (·.1 == n) := by
      funext entry
      by_cases e : entry.1 = n
      · simp [e, h]
      · simp [e]
    rw [other, if_neg h, find?]
    show (List.find? _ (List.filter _ s.held)).map _ = _
    rw [List.find?_filter, same]

/-- What is held after some names are let go was held before. -/
theorem has_of_has_drop {names : List String} {v : Value} (h : (s.drop names).Has v) : s.Has v := by
  obtain ⟨name, h⟩ := h
  refine ⟨name, ?_⟩
  rw [find?, drop, List.find?_filter, Option.map_eq_some_iff] at h
  obtain ⟨entry, h, rfl⟩ := h
  have kept : (!names.contains entry.1) = true ∧ (entry.1 == name) = true := by
    simpa using List.find?_some h
  have same : entry.1 = name := by simpa using kept.2
  rw [find?]
  -- the first entry of the name is not among those let go, for they go by their names
  have first : s.held.find? (·.1 == name) = some entry := by
    rw [← h]
    congr 1
    funext x
    by_cases e : x.1 = name
    · have stays : name ∉ names := by simpa [same] using kept.1
      simp [e, stays]
    · simp [e]
  rw [first]
  rfl

/-- **What a step can do to what is held.** A value held after a step was held before, or has just been
    made. -/
theorem has_of_has_step {t : Step} {v : Value} (h : (s.step rules t).Has v) :
    s.Has v ∨ ∃ name request, t = .make name request ∧ s.perform rules request = .ok v := by
  cases t with
  | drop names => exact .inl (has_of_has_drop h)
  | make name request =>
    rw [step] at h
    cases made : s.perform rules request with
    | error _ =>
      rw [made] at h
      exact .inl h
    | ok w =>
      rw [made] at h
      cases name with
      | none => exact .inl h
      | some name =>
        obtain ⟨n, hn⟩ := h
        have hn : (s.hold name w).find? n = some v := hn
        rw [find?_hold] at hn
        by_cases e : n = name
        · rw [if_pos e, Option.some.injEq] at hn
          exact .inr ⟨some name, request, rfl, hn ▸ made⟩
        · rw [if_neg e] at hn
          exact .inl ⟨n, hn⟩

/-- Nothing is held at the start. -/
theorem not_has_empty {v : Value} : ¬ empty.Has v := by
  rintro ⟨name, h⟩
  exact absurd h (by simp [find?, empty])

/-- **Invariants of runs.** What holds of all that is held at the start, and of everything that an allowed
    request makes while it holds of all that is held, holds of all that is held after a run of allowed
    requests. -/
theorem forall_has_run {P : Value → Prop} {allowed : Request → Prop}
    (make : ∀ (s : Session) (request : Request) (v : Value), allowed request → (∀ w, s.Has w → P w) →
      s.perform rules request = .ok v → P v)
    {steps : List Step}
    (ok : ∀ (name : Option String) (request : Request), Step.make name request ∈ steps → allowed request)
    (start : ∀ w, s.Has w → P w) : ∀ w, (s.run rules steps).Has w → P w := by
  induction steps generalizing s with
  | nil => exact start
  | cons t ts ih =>
    rw [run_cons]
    refine ih (fun name request h => ok name request (List.mem_cons_of_mem _ h)) ?_
    intro w hw
    rcases has_of_has_step hw with held | ⟨name, request, rfl, made⟩
    · exact start w held
    · exact make s request w (ok name request List.mem_cons_self) start made

/-! ## Look-ups -/

section LookUps

variable {name : String}

theorem expression_eq_ok_iff {e : Expr} : s.expression name = .ok e ↔ s.find? name = some (.expression e) := by
  unfold expression
  split <;> simp_all

theorem lambda_eq_ok_iff {l : Lambda} : s.lambda name = .ok l ↔ s.find? name = some (.lambda l) := by
  unfold lambda
  split <;> simp_all

theorem binding_eq_ok_iff {b : Binding} : s.binding name = .ok b ↔ s.find? name = some (.binding b) := by
  unfold binding
  split <;> simp_all

theorem related_eq_ok_iff {r : Related} : s.related name = .ok r ↔ s.find? name = some (.related r) := by
  unfold related
  split <;> simp_all

theorem command_eq_ok_iff {c : Command} : s.command name = .ok c ↔ s.find? name = some (.command c) := by
  unfold command
  split <;> simp_all

theorem relationship_eq_ok_iff {r : Relationship} :
    s.relationship name = .ok r ↔ s.find? name = some (.relationship r) := by
  unfold relationship
  split <;> simp_all

theorem relationshipEnd_eq_ok_iff {e : RelationshipEnd} :
    s.relationshipEnd name = .ok e ↔ s.find? name = some (.relationshipEnd e) := by
  unfold relationshipEnd
  split <;> simp_all

theorem type_eq_ok_iff {t : TypeUse} : s.type name = .ok t ↔ s.find? name = some (.type t) := by
  unfold type
  split <;> simp_all

theorem entity_eq_ok_iff {e : Entity} : s.entity name = .ok e ↔ s.find? name = some (.entity e) := by
  unfold entity
  split <;> simp_all

theorem complex_eq_ok_iff {c : ComplexType TypeUse} :
    s.complex name = .ok c ↔ s.find? name = some (.complex c) := by
  unfold complex
  split <;> simp_all

theorem navigation_eq_ok_iff {n : NavigationProperty} :
    s.navigation name = .ok n ↔ s.find? name = some (.navigation n) := by
  unfold navigation
  split <;> simp_all

theorem function_eq_ok_iff {f : FunctionDecl} : s.function name = .ok f ↔ s.find? name = some (.function f) := by
  unfold function
  split <;> simp_all

theorem extent_eq_ok_iff {x : Extent} : s.extent name = .ok x ↔ s.find? name = some (.extent x) := by
  unfold extent
  split <;> simp_all

theorem entitySet_eq_ok_iff {x : EntitySet} :
    s.entitySet name = .ok x ↔ s.find? name = some (.extent (.entities x)) := by
  unfold entitySet
  split <;> simp_all

/-- Expressions found under several names are all held. -/
theorem has_of_expressions_eq_ok {names : List String} {es : List Expr} (h : s.expressions names = .ok es) :
    ∀ e ∈ es, s.Has (.expression e) := by
  have found := mapM_eq_ok_iff.mp h
  clear h
  induction found with
  | nil => exact fun e he => absurd he List.not_mem_nil
  | cons first _ ih =>
    refine List.forall_mem_cons.mpr ⟨⟨_, expression_eq_ok_iff.mp first⟩, ih⟩

/-- Expressions found under names that stand second in pairs are all held. -/
theorem has_of_namedExpressions_eq_ok {pairs : List (String × String)} {es : List (String × Expr)}
    (h : s.namedExpressions pairs = .ok es) : ∀ e ∈ es, s.Has (.expression e.2) := by
  have found := mapM_eq_ok_iff.mp h
  clear h
  induction found with
  | nil => exact fun e he => absurd he List.not_mem_nil
  | cons first _ ih =>
    obtain ⟨e, he, h⟩ := bind_eq_ok_iff.mp first
    obtain rfl := pure_eq_ok_iff.mp h
    exact List.forall_mem_cons.mpr ⟨⟨_, expression_eq_ok_iff.mp he⟩, ih⟩

/-- Related entities found under several names are all held. -/
theorem has_of_mapM_related_eq_ok {names : List String} {rs : List Related}
    (h : names.mapM s.related = .ok rs) : ∀ r ∈ rs, s.Has (.related r) := by
  have found := mapM_eq_ok_iff.mp h
  clear h
  induction found with
  | nil => exact fun r hr => absurd hr List.not_mem_nil
  | cons first _ ih =>
    exact List.forall_mem_cons.mpr ⟨⟨_, related_eq_ok_iff.mp first⟩, ih⟩

end LookUps
end Session

/-! ## The expressions in a value -/

/-- The expressions that a value holds at its top. -/
def Value.roots : Value → List Expr
  | expression e => [e]
  | lambda l => [l.body]
  | binding b => [b.source]
  | related r => [r.reference]
  | command c => c.statement.expressions
  | _ => []

/-- The nodes of all expressions in a value. -/
def Value.nodes (v : Value) : List Expr := v.roots.flatMap Expr.preorder

/-- The session holds a value that the node is part of: an expression with the node in it, or a lambda, a
    binding, a related entity or a command made of such. -/
def Session.Holds (s : Session) (n : Expr) : Prop := ∃ v, s.Has v ∧ n ∈ v.nodes

theorem Value.mem_nodes_iff {v : Value} {n : Expr} : n ∈ v.nodes ↔ ∃ e ∈ v.roots, n ∈ e.preorder :=
  List.mem_flatMap

/-- The expressions at the top of what a session holds are held. -/
theorem Session.Has.holds {s : Session} {v : Value} {e : Expr} (held : s.Has v) (root : e ∈ v.roots) :
    s.Holds e :=
  ⟨v, held, Value.mem_nodes_iff.mpr ⟨e, root, e.self_mem_preorder⟩⟩

end EntityQuery
