import EntityQuery.Proofs.Builder.Widening
import EntityQuery.Proofs.Command.Acceptance
import EntityQuery.Session.Run
/-!
# `Proofs.Session.Widening` — runs under wider rules

A request looks its operands up, which asks no rules, and then makes one node, lambda, binding, related
entity or command. So what it makes is made under wider rules as well. Along a run this keeps the sessions
equal: as long as every request is accepted, the next one finds the same values at the same site.

## Contents
* `Command.carriesOver_update` and the like — commands.
* `Session.carriesOver_perform` — any request, in any session.
* `Session.outcomes`, `Session.Accepts` — what the requests of a run make; a run accepted throughout.
* `Session.accepted_under_wider` — what is accepted stays accepted and stays the same.
-/

namespace EntityQuery

/-! ## Commands -/

section Commands

variable {rules wider : TypeRules} (wide : rules.WidenedBy wider)
include wide

theorem SetClause.Fits.widened {type : TypeUse} {given : String × Expr} {clause : SetClause}
    (fits : SetClause.Fits rules type given clause) : SetClause.Fits wider type given clause :=
  ⟨fits.1, wide.promotes _ _ fits.2.1, fits.2.2⟩

/-- Parameters are compared by equality, which is not widened. -/
theorem Parameters.declareAll_widened (ps refs : List Parameter) :
    declareAll wider ps refs = declareAll rules ps refs := by
  induction refs generalizing ps with
  | nil => rfl
  | cons p refs ih =>
    rw [declareAll, declareAll, declare, declare, wide.equals]
    simp only [ih]

namespace Command

theorem carriesOver_assemble (statement : Statement) :
    CarriesOver (assemble rules statement) (assemble wider statement) := by
  rw [assemble, assemble, Parameters.declareAll_widened wide]
  exact carriesOver_refl _

theorem carriesOver_insert (target : Binding) (given : List (String × Expr)) (returning : Option Expr) :
    CarriesOver (insert rules target given returning) (insert wider target given returning) := by
  intro c made
  obtain ⟨ranges, clauses, fit, assembled⟩ := insert_eq_ok_iff.mp made
  have fit := fit.imp fun _ _ h => SetClause.Fits.widened wide h
  exact insert_eq_ok_iff.mpr ⟨ranges, clauses, fit, carriesOver_assemble wide _ c assembled⟩

theorem carriesOver_update (target : Binding) (predicate : Expr) (given : List (String × Expr))
    (returning : Option Expr) :
    CarriesOver (update rules target predicate given returning)
      (update wider target predicate given returning) := by
  intro c made
  obtain ⟨ranges, condition, clauses, fit, assembled⟩ := update_eq_ok_iff.mp made
  have condition := wide.isBoolean _ condition
  have fit := fit.imp fun _ _ h => SetClause.Fits.widened wide h
  exact update_eq_ok_iff.mpr ⟨ranges, condition, clauses, fit, carriesOver_assemble wide _ c assembled⟩

theorem carriesOver_delete (target : Binding) (predicate : Expr) :
    CarriesOver (delete rules target predicate) (delete wider target predicate) := by
  intro c made
  obtain ⟨ranges, condition, assembled⟩ := delete_eq_ok_iff.mp made
  have condition := wide.isBoolean _ condition
  exact delete_eq_ok_iff.mpr ⟨ranges, condition, carriesOver_assemble wide _ c assembled⟩

theorem carriesOver_function (f : FunctionDecl) : CarriesOver (function rules f) (function wider f) := by
  rw [function, function, Parameters.declareAll_widened wide]
  exact carriesOver_refl _

end Command
end Commands

/-! ## Requests -/

section Attempts

variable {α β : Type}

/-- What comes after a look-up carries over when it does for whatever is found. -/
theorem CarriesOver.after {ε : Type} (x : Except ε α) {f g : α → Except ε β}
    (h : ∀ a, CarriesOver (f a) (g a)) : CarriesOver (x >>= f) (x >>= g) :=
  (carriesOver_refl x).bind h

theorem CarriesOver.attempt {x y : Except Rejection α} (h : CarriesOver x y) :
    CarriesOver (attempt x) (attempt y) := by
  intro a ha
  exact attempt_eq_ok_iff.mpr (h a (attempt_eq_ok_iff.mp ha))

/-- Making something and returning it as a value. -/
theorem CarriesOver.returned {x y : Except Rejection α} (h : CarriesOver x y) (f : α → β) :
    CarriesOver (EntityQuery.attempt x >>= fun a => pure (f a)) (EntityQuery.attempt y >>= fun a => pure (f a)) :=
  h.attempt.bind fun _ => carriesOver_refl _

end Attempts

section Requests

variable {rules wider : TypeRules} (wide : rules.WidenedBy wider) (s : Session)
include wide

/-- **One call of the builder.** -/
theorem BuildRequest.carriesOver_perform (request : BuildRequest) :
    CarriesOver (request.perform rules s) (request.perform wider s) := by
  have wide : (s.builder rules).rules.WidenedBy wider := wide
  cases request with
  -- these ask no rules
  | null _ | variableReference _ _ | parameterReference _ _ | property _ _ | lambda _ _ | elementOf _
  | project _ _ => exact carriesOver_refl _
  | constant value =>
    refine .after _ fun literal => .returned ?_ _
    exact Expr.carriesOver_mkConstant wide literal
  | constantOf type value =>
    refine .after _ fun type => .after _ fun literal => .returned ?_ _
    exact Expr.carriesOver_mkConstant wide literal
  | navigationProperty object navigation =>
    refine .after _ fun object => .after _ fun n => .returned ?_ _
    exact Builder.carriesOver_navigationProperty wide object n
  | navigate source fromEnd toEnd =>
    refine .after _ fun source => .after _ fun fromEnd => .after _ fun toEnd => .returned ?_ _
    exact Builder.carriesOver_navigate wide source fromEnd toEnd
  | function f arguments =>
    refine .after _ fun f => .after _ fun arguments => .returned ?_ _
    exact Builder.carriesOver_function wide f arguments
  | invoke l arguments =>
    refine .after _ fun l => .after _ fun arguments => .returned ?_ _
    exact Builder.carriesOver_invoke wide l arguments
  | newRow columns =>
    refine .after _ fun columns => .returned ?_ _
    exact Builder.carriesOver_newRow wide columns
  | newInstance type elements =>
    refine .after _ fun type => .after _ fun elements => .returned ?_ _
    exact Builder.carriesOver_newInstance wide type elements
  | newCollection elements =>
    refine .after _ fun elements => .returned ?_ _
    exact Builder.carriesOver_newCollection wide elements
  | newEmptyCollection element =>
    refine .after _ fun element => .returned ?_ _
    exact Expr.carriesOver_mkNewInstance wide []
  | newEntity entity elements related =>
    refine .after _ fun entity => .after _ fun elements => .after _ fun related => .returned ?_ _
    exact Builder.carriesOver_newEntity wide entity elements related
  | related source target reference =>
    refine .after _ fun source => .after _ fun target => .after _ fun reference => .returned ?_ _
    exact Related.carriesOver_make wide _ source target reference
  | scan extent =>
    refine .after _ fun extent => .returned ?_ _
    exact Expr.carriesOver_mkScan wide extent
  | ref set keys =>
    refine .after _ fun set => .after _ fun keys => .returned ?_ _
    exact Builder.carriesOver_ref wide set keys
  | deref reference =>
    refine .after _ fun reference => .returned ?_ _
    exact Builder.carriesOver_deref wide reference
  | compare operator left right =>
    refine .after _ fun left => .after _ fun right => .returned ?_ _
    exact Expr.carriesOver_mkComparison wide _ operator left right
  | and left right =>
    refine .after _ fun left => .after _ fun right => .returned ?_ _
    exact Expr.carriesOver_mkAnd wide _ left right
  | or left right =>
    refine .after _ fun left => .after _ fun right => .returned ?_ _
    exact Expr.carriesOver_mkOr wide _ left right
  | not argument =>
    refine .after _ fun argument => .returned ?_ _
    exact Expr.carriesOver_mkNot wide _ argument
  | isNull argument =>
    refine .after _ fun argument => .returned ?_ _
    exact Expr.carriesOver_mkIsNull wide _ argument
  | bind source name =>
    refine .after _ fun source => .returned ?_ _
    exact Binding.carriesOver_make wide source name
  | filter input predicate =>
    refine .after _ fun input => .after _ fun predicate => .returned ?_ _
    exact Expr.carriesOver_mkFilter wide input predicate

/-- **One node under an explicit type.** -/
theorem NodeRequest.carriesOver_perform (type : TypeUse) (request : NodeRequest) :
    CarriesOver (request.perform rules s type) (request.perform wider s type) := by
  cases request with
  -- these ask no rules
  | property _ _ | navigation _ _ _ _ | function _ _ | lambda _ _ => exact carriesOver_refl _
  | newInstance elements =>
    refine .after _ fun elements => .attempt ?_
    exact Expr.carriesOver_mkNewInstance wide elements
  | newEntity elements related =>
    refine .after _ fun elements => .after _ fun related => .attempt ?_
    exact Expr.carriesOver_mkEntityInstance wide elements related
  | ref set keys =>
    refine .after _ fun set => .after _ fun keys => .attempt ?_
    exact Expr.carriesOver_mkRef wide set keys
  | deref reference =>
    refine .after _ fun reference => .attempt ?_
    exact Expr.carriesOver_mkDeref wide reference
  | scan extent =>
    refine .after _ fun extent => .attempt ?_
    exact Expr.carriesOver_mkScan wide extent

/-- **One command.** -/
theorem CommandRequest.carriesOver_perform (request : CommandRequest) :
    CarriesOver (request.perform rules s) (request.perform wider s) := by
  cases request with
  | query e =>
    refine .after _ fun e => .attempt ?_
    exact Command.carriesOver_assemble wide _
  | insert target clauses returning =>
    refine .after _ fun target => .after _ fun given => .after _ fun returning => .attempt ?_
    exact Command.carriesOver_insert wide target given returning
  | update target predicate clauses returning =>
    refine .after _ fun target => .after _ fun predicate => .after _ fun given => ?_
    refine .after _ fun returning => .attempt ?_
    exact Command.carriesOver_update wide target predicate given returning
  | delete target predicate =>
    refine .after _ fun target => .after _ fun predicate => .attempt ?_
    exact Command.carriesOver_delete wide target predicate
  | function f =>
    refine .after _ fun f => .attempt ?_
    exact Command.carriesOver_function wide f
  | withOptions _ _ => exact carriesOver_refl _

/-- **One request.** Whatever a request makes in a session, it makes there under wider rules. -/
theorem Session.carriesOver_perform (request : Request) :
    CarriesOver (s.perform rules request) (s.perform wider request) := by
  cases request with
  | model _ | part _ _ => exact carriesOver_refl _
  | build request => exact request.carriesOver_perform wide s
  | node type request =>
    refine .after _ fun type => ?_
    refine (request.carriesOver_perform wide s type).bind fun e => ?_
    exact carriesOver_refl _
  | command request =>
    refine (request.carriesOver_perform wide s).bind fun c => ?_
    exact carriesOver_refl _

end Requests

/-! ## Runs -/

namespace Session

/-- What the requests of a run end in, in turn. -/
def outcomes (rules : TypeRules) (s : Session) : List Step → List (Attempt Value)
  | [] => []
  | .make name request :: steps =>
      s.perform rules request :: outcomes rules (s.step rules (.make name request)) steps
  | .drop names :: steps => outcomes rules (s.step rules (.drop names)) steps

/-- **A run accepted throughout.** Every request of it makes a value. -/
def Accepts (rules : TypeRules) (s : Session) (steps : List Step) : Prop :=
  ∀ o ∈ s.outcomes rules steps, o.isOk = true

section Runs

variable {rules wider : TypeRules} {s : Session}

theorem accepts_make_iff {name : Option String} {request : Request} {steps : List Step} :
    s.Accepts rules (.make name request :: steps) ↔
      (∃ v, s.perform rules request = .ok v) ∧ (s.step rules (.make name request)).Accepts rules steps := by
  unfold Accepts
  rw [outcomes, List.forall_mem_cons]
  cases s.perform rules request <;> simp [Except.isOk, Except.toBool]

/-- A request that makes a value leaves the same session under wider rules. -/
theorem step_widened (wide : rules.WidenedBy wider) {name : Option String} {request : Request} {v : Value}
    (made : s.perform rules request = .ok v) :
    s.step wider (.make name request) = s.step rules (.make name request) := by
  have made' := carriesOver_perform wide s request v made
  rw [step, step, made, made']

/-- **Values along a run.** A run accepted throughout makes the same values under wider rules. -/
theorem outcomes_widened (wide : rules.WidenedBy wider) {steps : List Step} (accepts : s.Accepts rules steps) :
    s.outcomes wider steps = s.outcomes rules steps := by
  induction steps generalizing s with
  | nil => rfl
  | cons t steps ih =>
    cases t with
    | drop names => exact ih accepts
    | make name request =>
      obtain ⟨⟨v, made⟩, rest⟩ := accepts_make_iff.mp accepts
      have made' := carriesOver_perform wide s request v made
      rw [outcomes, outcomes, made, made', step_widened wide made, ih rest]

/-- **Sessions along a run.** A run accepted throughout goes through the same sessions under wider rules. -/
theorem run_take_widened (wide : rules.WidenedBy wider) {steps : List Step} (accepts : s.Accepts rules steps)
    (n : Nat) : s.run wider (steps.take n) = s.run rules (steps.take n) := by
  induction steps generalizing s n with
  | nil => rw [List.take_nil, run_nil, run_nil]
  | cons t steps ih =>
    cases n with
    | zero => rfl
    | succ n =>
      cases t with
      | drop names => exact ih accepts n
      | make name request =>
        obtain ⟨⟨v, made⟩, rest⟩ := accepts_make_iff.mp accepts
        rw [List.take_succ_cons, run_cons, run_cons, step_widened wide made, ih rest n]

end Runs

/-- **Wider rules only accept more.** Promotion widens equality, and a byte that counts as a Boolean widens
    the standard rules. Whatever a request makes in any session, out of whatever operands that holds, it
    makes under wider rules, and it is the same. A run that is accepted throughout is still accepted
    throughout, makes the same values in turn, and goes through the same sessions. -/
theorem accepted_under_wider :
    TypeRules.exact.WidenedBy .standard ∧ TypeRules.standard.WidenedBy .byteAsBoolean ∧
      ∀ rules wider : TypeRules, rules.WidenedBy wider → ∀ s : Session,
        (∀ (request : Request) (v : Value),
          s.perform rules request = .ok v → s.perform wider request = .ok v) ∧
        ∀ steps : List Step, s.Accepts rules steps →
          s.Accepts wider steps ∧ s.outcomes wider steps = s.outcomes rules steps ∧
            ∀ n, s.run wider (steps.take n) = s.run rules (steps.take n) := by
  refine ⟨TypeRules.exact_widenedBy_standard, TypeRules.standard_widenedBy_byteAsBoolean, ?_⟩
  intro rules wider wide s
  constructor
  · intro request v made
    exact carriesOver_perform wide s request v made
  · intro steps accepts
    have values := outcomes_widened wide accepts
    refine ⟨?_, values, run_take_widened wide accepts⟩
    rw [Accepts, values]
    exact accepts

/-- The people of one age, without any promotion. -/
def peopleOfOneAge : List Step := [
  .make (some "Person") (.model (.entity ⟨"Town", "Person"⟩ none
    [⟨⟨"Id", .primitive .int32⟩, true⟩, ⟨⟨"Age", .primitive .byte⟩, false⟩])),
  .make (some "People") (.model (.entitySet "Town" "People" "Person")),
  .make (some "all") (.build (.scan "People")),
  .make (some "each") (.build (.bind "all" "p")),
  .make (some "p") (.build (.elementOf "each")),
  .make (some "age") (.build (.property "p" "Age")),
  .make (some "given") (.build (.parameterReference "age" (.primitive .byte))),
  .make (some "same") (.build (.compare .equals "age" "given")),
  .drop ["p", "age", "given"],
  .make (some "found") (.build (.filter "each" "same"))]

theorem accepted_peopleOfOneAge :
    empty.Accepts .exact peopleOfOneAge ∧
      empty.outcomes .standard peopleOfOneAge = empty.outcomes .exact peopleOfOneAge ∧
      empty.run .standard peopleOfOneAge = empty.run .exact peopleOfOneAge := by
  have accepts : empty.Accepts .exact peopleOfOneAge := List.all_eq_true.mp rfl
  have ⟨wide, _, carries⟩ := accepted_under_wider
  have ⟨_, values, sessions⟩ := (carries .exact .standard wide empty).2 peopleOfOneAge accepts
  exact ⟨accepts, values, sessions peopleOfOneAge.length⟩

end Session
end EntityQuery
