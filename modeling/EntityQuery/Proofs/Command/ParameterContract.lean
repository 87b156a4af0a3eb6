import EntityQuery.Proofs.Command.Acceptance
import EntityQuery.Proofs.Command.Parameters
import EntityQuery.Proofs.Expr.Passes
import EntityQuery.Proofs.Session.Construction
/-!
# `Proofs.Command.ParameterContract` — which parameters a command takes

The parameters of a statement are told by the references in its expressions, read in order: what the target
ranges over, the condition, the values of the clauses, what is returned, and inside each the nodes in
pre-order. Once all other checks have passed, a command is assembled exactly when references of one name
are of one type. Names cannot fail any more, for in no run is there a reference to a parameter without a
proper name.

## Contents
* `Statement.parts`, `Statement.references` — what a statement is made of, and the references in it, in order.
* `Session.isParameterName_of_holds` — references in a run have proper names.
* `Command.Assembling` — a statement whose other checks pass.
* `Command.parameters_of_assembling` — the contract.
-/

namespace EntityQuery

/-! ## References -/

namespace Statement

/-- The expressions that a statement is made of: what the target ranges over, the condition, the values of the
    clauses from the left, what is returned. The call of a function is made of none. -/
def parts : Statement → List Expr
  | query e => [e]
  | insert target clauses returning => [target.source] ++ clauses.map (·.value) ++ returning.toList
  | update target predicate clauses returning =>
      [target.source] ++ [predicate] ++ clauses.map (·.value) ++ returning.toList
  | delete target predicate => [target.source] ++ [predicate]
  | function _ _ => []

/-- The references to parameters in the nodes of a statement's parts, part by part and in pre-order. -/
def references (statement : Statement) : List Parameter :=
  statement.parts.flatMap fun e => e.preorder.filterMap Expr.parameter?

/-- What a command looks through is what its statement is made of. -/
theorem expressions_eq_parts (statement : Statement) : statement.expressions = statement.parts := by
  cases statement <;> rfl

/-- The pass over the expressions collects the references in pre-order. -/
theorem parameterReferences_eq (statement : Statement) :
    statement.parameterReferences = statement.references := by
  rw [parameterReferences, references, expressions_eq_parts, funext Expr.parameterReferences_eq]

end Statement

namespace Session

variable {rules : TypeRules} {steps : List Step}

/-- What is below a node that a session holds is held as well. -/
theorem Holds.trans {s : Session} {e n : Expr} (held : s.Holds e) (h : n ∈ e.preorder) : s.Holds n := by
  obtain ⟨v, hv, he⟩ := held
  obtain ⟨root, hroot, he⟩ := Value.mem_nodes_iff.mp he
  exact ⟨v, hv, Value.mem_nodes_iff.mpr ⟨root, hroot, Expr.preorder_trans he h⟩⟩

/-- **Parameters have proper names** in every run, also of nodes under explicit types. -/
theorem isParameterName_of_holds {e : Expr} (held : (empty.run rules steps).Holds e) {p : Parameter}
    (h : e.parameter? = some p) : isParameterName p.name = true := by
  obtain ⟨v, hv, he⟩ := held
  have sound := @sound_run rules (fun e => ∀ p, e.parameter? = some p → isParameterName p.name = true) true
    (fun _ built p => built.isParameterName) ?_ steps (fun _ _ _ => rfl) v hv
  · exact sound.nodes e he p h
  · intro _ n given p hp
    rw [given.parameter?_eq_none] at hp
    exact absurd hp (by simp)

/-- The references in held expressions have proper names. -/
theorem isParameterName_of_mem_references {statement : Statement}
    (held : ∀ e ∈ statement.parts, (empty.run rules steps).Holds e) :
    ∀ p ∈ statement.references, isParameterName p.name = true := by
  intro p hp
  obtain ⟨e, he, hp⟩ := List.mem_flatMap.mp hp
  obtain ⟨n, hn, hp⟩ := List.mem_filterMap.mp hp
  exact isParameterName_of_holds ((held e he).trans hn) hp

end Session

/-! ## The contract -/

namespace Command

/-- **Assembling.** The statement's other checks pass under the rules, and the result is that of asking for
    the command. -/
inductive Assembling (rules : TypeRules) : Statement → Except Rejection Command → Prop
  | query {e : Expr} : Assembling rules (.query e) (query rules e)
  | insert {target given clauses returning} (ranges : BindingOf.RangesOverSet target)
      (fit : List.Forall₂ (SetClause.Fits rules target.element.type) given clauses) :
      Assembling rules (.insert target clauses returning) (insert rules target given returning)
  | update {target predicate given clauses returning} (ranges : BindingOf.RangesOverSet target)
      (condition : rules.isBoolean predicate.type.shape = true)
      (fit : List.Forall₂ (SetClause.Fits rules target.element.type) given clauses) :
      Assembling rules (.update target predicate clauses returning)
        (update rules target predicate given returning)
  | delete {target predicate} (ranges : BindingOf.RangesOverSet target)
      (condition : rules.isBoolean predicate.type.shape = true) :
      Assembling rules (.delete target predicate) (delete rules target predicate)

variable {rules : TypeRules} {statement : Statement} {result : Except Rejection Command}

/-- When the other checks pass, only the parameters are left to declare. -/
theorem Assembling.eq_assemble (assembling : Assembling rules statement result) :
    result = assemble rules statement := by
  cases assembling with
  | query => rfl
  | insert ranges fit =>
    rw [Command.insert, requireTarget_eq_ok_iff.mpr ranges]
    show (SetClause.makeAll _ _ _ >>= _) = _
    rw [SetClause.makeAll_eq_ok_iff.mpr fit]
    rfl
  | update ranges condition fit =>
    rw [Command.update, requireTarget_eq_ok_iff.mpr ranges]
    show (Expr.requireBoolean _ _ _ >>= _) = _
    rw [Expr.requireBoolean_eq_ok_iff.mpr condition]
    show (SetClause.makeAll _ _ _ >>= _) = _
    rw [SetClause.makeAll_eq_ok_iff.mpr fit]
    rfl
  | delete ranges condition =>
    rw [Command.delete, requireTarget_eq_ok_iff.mpr ranges]
    show (Expr.requireBoolean _ _ _ >>= _) = _
    rw [Expr.requireBoolean_eq_ok_iff.mpr condition]
    rfl

/-- Assembly succeeds when the references agree, with one parameter for each name. -/
theorem assemble_of_agree (equality : rules.equals = Shape.equals)
    (named : ∀ p ∈ statement.references, isParameterName p.name = true)
    (agree : ∀ p ∈ statement.references, Parameters.disagrees statement.references p = false) :
    ∃ c, assemble rules statement = .ok c ∧ c.statement = statement ∧
      Parameters.Declares statement.references c.parameters := by
  obtain ⟨ps, declared, declares⟩ :=
    Parameters.declareAll_of_agree equality Parameters.declares_nil named agree
  rw [← statement.parameterReferences_eq] at declared
  exact ⟨_, assemble_eq_ok_iff.mpr ⟨ps, declared, rfl⟩, rfl, declares⟩

/-- Assembly fails at the earliest reference that disagrees with the first of its name. -/
theorem assemble_of_disagrees (equality : rules.equals = Shape.equals)
    (named : ∀ p ∈ statement.references, isParameterName p.name = true) {p first : Parameter}
    (found : statement.references.find? (Parameters.disagrees statement.references) = some p)
    (isFirst : statement.references.find? (·.name == p.name) = some first) :
    assemble rules statement = .error (.parameterTypeConflict p.name first.type.text p.type.text) := by
  have stopped := Parameters.declareAll_of_disagrees equality Parameters.declares_nil named found isFirst
  rw [← statement.parameterReferences_eq] at stopped
  rw [assemble, stopped]
  rfl

/-- **The parameter contract.** Under rules with the standard equality, for a statement made of what any run
    holds and whose other checks pass: a command is assembled exactly when any two references of one name
    are of one type; its parameters are then one for each name, in the order of first reference and with
    the type use of that reference; and otherwise the only rejection is that of the earliest reference
    whose type is not that of the first reference to its name. -/
theorem parameters_of_assembling {made : TypeRules} {steps : List Step}
    (equality : rules.equals = Shape.equals) (assembling : Assembling rules statement result)
    (held : ∀ e ∈ statement.parts, (Session.empty.run made steps).Holds e) :
    ((∃ c, result = .ok c) ↔
      ∀ p ∈ statement.references, ∀ q ∈ statement.references, p.name = q.name →
        p.type.shape.equals q.type.shape = true) ∧
    (∀ c, result = .ok c →
      c.statement = statement ∧
        c.parameters.map (·.name) = (statement.references.map (·.name)).eraseDups ∧
        ∀ p ∈ c.parameters, statement.references.find? (·.name == p.name) = some p) ∧
    ∀ cause, result = .error cause →
      ∃ p first, statement.references.find? (Parameters.disagrees statement.references) = some p ∧
        statement.references.find? (·.name == p.name) = some first ∧
        cause = .parameterTypeConflict p.name first.type.text p.type.text := by
  have named := Session.isParameterName_of_mem_references held
  rw [assembling.eq_assemble, ← Parameters.forall_agree_iff]
  cases found : statement.references.find? (Parameters.disagrees statement.references) with
  | none =>
    have agree : ∀ p ∈ statement.references, Parameters.disagrees statement.references p = false := by
      intro p hp
      simpa using List.find?_eq_none.mp found p hp
    obtain ⟨c, assembled, same, declares⟩ := assemble_of_agree equality named agree
    rw [assembled]
    refine ⟨iff_of_true ⟨c, rfl⟩ agree, ?_, fun cause h => absurd h (by simp)⟩
    intro d hd
    obtain rfl := Except.ok.inj hd
    exact ⟨same, declares.names, declares.firsts⟩
  | some p =>
    obtain ⟨first, isFirst, _⟩ := Parameters.disagrees_eq_true_iff.mp (List.find?_some found)
    have stopped := assemble_of_disagrees equality named found isFirst
    rw [stopped]
    refine ⟨iff_of_false (by simp) ?_, fun c h => absurd h (by simp), ?_⟩
    · intro agree
      have other := List.find?_some found
      rw [agree p (List.mem_of_find?_eq_some found)] at other
      exact absurd other Bool.false_ne_true
    · intro cause h
      exact ⟨p, first, rfl, isFirst, (Except.error.inj h).symm⟩

/-- Accounts, one of which is chosen by its number; the number is referred to once more, and once as a wider
    one. -/
def accountByNumber : List Step := [
  .make (some "Account") (.model (.entity ⟨"Bank", "Account"⟩ none
    [⟨⟨"Id", .primitive .int32⟩, true⟩, ⟨⟨"Balance", .primitive .decimal⟩, false⟩])),
  .make (some "Accounts") (.model (.entitySet "Bank" "Accounts" "Account")),
  .make (some "all") (.build (.scan "Accounts")),
  .make (some "account") (.build (.bind "all" "a")),
  .make (some "a") (.build (.elementOf "account")),
  .make (some "id") (.build (.property "a" "Id")),
  .make (some "number") (.build (.parameterReference "n" (.primitive .int32))),
  .make (some "chosen") (.build (.compare .equals "id" "number")),
  .make (some "amount") (.build (.parameterReference "amount" (.primitive .decimal))),
  .make (some "again") (.build (.parameterReference "n" (.primitive .int32))),
  .make (some "wide") (.build (.parameterReference "n" (.primitive .int64)))]

/-- An update that refers to the number in its condition, to the amount in a clause, and again to the number in
    what it returns: it takes each once, the number as the condition has it. Returning the wider number is
    refused. -/
theorem parameters_accountByNumber :
    ∃ account chosen amount again wide, ∃ n a m : Handle,
      (Session.empty.run .standard accountByNumber).find? "account" = some (.binding account) ∧
      (Session.empty.run .standard accountByNumber).find? "chosen" = some (.expression chosen) ∧
      (Session.empty.run .standard accountByNumber).find? "amount" = some (.expression amount) ∧
      (Session.empty.run .standard accountByNumber).find? "again" = some (.expression again) ∧
      (Session.empty.run .standard accountByNumber).find? "wide" = some (.expression wide) ∧
      chosen.parameterReferences = [⟨"n", ⟨n, .primitive .int32⟩⟩] ∧
      again.parameterReferences = [⟨"n", ⟨m, .primitive .int32⟩⟩] ∧ n ≠ m ∧
      (∃ c, update .standard account chosen [("Balance", amount)] (some again) = .ok c ∧
        c.parameters = [⟨"n", ⟨n, .primitive .int32⟩⟩, ⟨"amount", ⟨a, .primitive .decimal⟩⟩]) ∧
      update .standard account chosen [("Balance", amount)] (some wide) =
        .error (.parameterTypeConflict "n" "Edm.Int32" "Edm.Int64") := by
  obtain ⟨account, chosen, amount, again, wide, balance, n, a, m, w, hasAccount, hasChosen, hasAmount, hasAgain,
      hasWide, refers, refersAgain, other, ranges, condition, found, promotes, collected, collectedWide⟩ :
      ∃ account chosen amount again wide balance, ∃ n a m w : Handle,
        (Session.empty.run .standard accountByNumber).find? "account" = some (.binding account) ∧
        (Session.empty.run .standard accountByNumber).find? "chosen" = some (.expression chosen) ∧
        (Session.empty.run .standard accountByNumber).find? "amount" = some (.expression amount) ∧
        (Session.empty.run .standard accountByNumber).find? "again" = some (.expression again) ∧
        (Session.empty.run .standard accountByNumber).find? "wide" = some (.expression wide) ∧
        chosen.parameterReferences = [⟨"n", ⟨n, .primitive .int32⟩⟩] ∧
        again.parameterReferences = [⟨"n", ⟨m, .primitive .int32⟩⟩] ∧ n ≠ m ∧
        account.RangesOverSet ∧ TypeRules.standard.isBoolean chosen.type.shape = true ∧
        account.element.type.shape.structuralProperty? "Balance" = some balance ∧
        TypeRules.standard.promotes amount.type.shape balance.type.shape = true ∧
        (Statement.update account chosen [⟨balance, amount⟩] (some again)).parameterReferences =
          [⟨"n", ⟨n, .primitive .int32⟩⟩, ⟨"amount", ⟨a, .primitive .decimal⟩⟩, ⟨"n", ⟨m, .primitive .int32⟩⟩] ∧
        (Statement.update account chosen [⟨balance, amount⟩] (some wide)).parameterReferences =
          [⟨"n", ⟨n, .primitive .int32⟩⟩, ⟨"amount", ⟨a, .primitive .decimal⟩⟩, ⟨"n", ⟨w, .primitive .int64⟩⟩] :=
    ⟨_, _, _, _, _, _, _, _, _, _, rfl, rfl, rfl, rfl, rfl, rfl, rfl, by decide, ⟨_, rfl⟩, rfl, rfl, rfl, rfl, rfl⟩
  rw [Statement.parameterReferences_eq] at collected collectedWide
  refine ⟨account, chosen, amount, again, wide, n, a, m, hasAccount, hasChosen, hasAmount, hasAgain, hasWide,
    refers, refersAgain, other, ?_⟩
  have fit : List.Forall₂ (SetClause.Fits .standard account.element.type) [("Balance", amount)] [⟨balance, amount⟩] :=
    .cons ⟨found, promotes, rfl⟩ .nil
  have holds {name : String} {e : Expr} (h : (Session.empty.run .standard accountByNumber).find? name =
      some (.expression e)) : (Session.empty.run .standard accountByNumber).Holds e :=
    Session.Has.holds ⟨name, h⟩ List.mem_cons_self
  have held {returning : Expr} (last : (Session.empty.run .standard accountByNumber).Holds returning) :
      ∀ e ∈ (Statement.update account chosen [⟨balance, amount⟩] (some returning)).parts,
        (Session.empty.run .standard accountByNumber).Holds e := by
    refine List.forall_mem_cons.mpr ⟨Session.Has.holds ⟨_, hasAccount⟩ List.mem_cons_self, ?_⟩
    exact List.forall_mem_cons.mpr ⟨holds hasChosen, forall_mem_pair (holds hasAmount) last⟩
  have equality : TypeRules.standard.equals = Shape.equals := rfl
  constructor
  · obtain ⟨success, made, _⟩ :=
      parameters_of_assembling equality (.update ranges condition fit) (held (holds hasAgain))
    rw [collected] at success made
    obtain ⟨c, assembled⟩ := success.mpr (by simp [Shape.equals])
    -- the names and the first references leave one list
    obtain ⟨_, names, firsts⟩ := made c assembled
    have declares : Parameters.Declares _ c.parameters := ⟨names, firsts⟩
    exact ⟨c, assembled, declares.eq_filterMap⟩
  · obtain ⟨success, _, rejection⟩ :=
      parameters_of_assembling equality (.update ranges condition fit) (held (holds hasWide))
    rw [collectedWide] at success rejection
    cases assembled : update .standard account chosen [("Balance", amount)] (some wide) with
    | ok c =>
      -- the first reference and the last would have to be of one type
      have same := success.mp ⟨c, assembled⟩ ⟨"n", ⟨n, .primitive .int32⟩⟩ (by simp) ⟨"n", ⟨w, .primitive .int64⟩⟩
        (by simp) rfl
      exact absurd same Bool.false_ne_true
    | error cause =>
      obtain ⟨p, first, earliest, isFirst, rfl⟩ := rejection cause assembled
      obtain rfl := Option.some.inj (earliest.symm.trans rfl)
      obtain rfl := Option.some.inj (isFirst.symm.trans rfl)
      rfl

end Command
end EntityQuery
