import EntityQuery.Proofs.Command.ParameterContract
import EntityQuery.Proofs.Precedence
import EntityQuery.Proofs.Types.Standard
/-!
# `Proofs.Command.Precedence` — which fault a command is refused for

An insertion, an update and a deletion are judged by conditions in a fixed order: the target ranges over an
entity set, the predicate is a Boolean, each clause from the left names a property and then fits it, and
references to one parameter are of one type. A command may violate several of them at once, and is then
refused for the first. The order is a list here, so that each check contributes its conditions and the three
commands differ only in which they put in a row.

## Contents
* The conditions on the target, the predicate, the clauses and the references, as `Condition`s.
* `judgedBy_requireTarget`, `SetClause.judgedBy_makeAll`, `Command.judgedBy_assemble` — the checks.
* `Change`, with its conditions; `Change.judgedBy_conditions` — the three commands follow theirs.
-/

namespace EntityQuery

/-! ## The conditions on commands -/

namespace Condition

/-- The target ranges over an entity set. -/
def rangesOverSet (target : Binding) : Condition where
  holds := target.RangesOverSet
  reported cause := cause = .unexpectedType .target .entitySetScan target.source.kind.name

/-- The predicate is a Boolean. -/
def isBoolean (predicate : Expr) : Condition where
  holds := predicate.type.shape = .primitive .boolean
  reported cause := cause = .unexpectedType .predicate .booleanType predicate.type.text

/-- The type has a structural property of the name, its own or an inherited one. -/
def hasProperty (type : TypeUse) (name : String) : Condition where
  holds := ∃ p, type.shape.structuralProperty? name = some p
  reported cause := cause = .unknownMember type.text name

/-- The value may stand for a value of the property of the name. -/
def fitsProperty (type : TypeUse) (name : String) (value : Expr) : Condition where
  holds := ∃ p, type.shape.structuralProperty? name = some p ∧
    value.type.shape.promotesTo p.type.shape = true
  reported cause := ∃ p, type.shape.structuralProperty? name = some p ∧
    cause = .valueTypeMismatch .setClauses p.type.text value.type.text

/-- Both conditions on a clause: the name comes before the value. -/
def ofClause (type : TypeUse) (given : String × Expr) : List Condition :=
  [hasProperty type given.1, fitsProperty type given.1 given.2]

/-- References of one name are of one type. The rejection is for the earliest whose type is not that of the
    first of its name. -/
def agreement (refs : List Parameter) : Condition where
  holds := ∀ p ∈ refs, ∀ q ∈ refs, p.name = q.name → p.type.shape.equals q.type.shape = true
  reported cause := ∃ p first, refs.find? (Parameters.disagrees refs) = some p ∧
    refs.find? (·.name == p.name) = some first ∧
    cause = .parameterTypeConflict p.name first.type.text p.type.text

end Condition

/-! ## The checks -/

theorem judgedBy_requireTarget (target : Binding) :
    JudgedBy [.rangesOverSet target] (requireTarget target) fun _ => target.RangesOverSet := by
  by_cases ranges : target.RangesOverSet
  · rw [requireTarget_eq_ok_iff.mpr ranges]
    exact judgedBy_ok (List.forall_mem_singleton.mpr ranges) ranges
  · unfold requireTarget
    split
    · rename_i set scans
      exact absurd ⟨set, scans⟩ ranges
    · refine judgedBy_error fun c => ?_
      rw [firstFault_singleton_iff]
      exact and_iff_right ranges

theorem judgedBy_requireBoolean (predicate : Expr) :
    JudgedBy [.isBoolean predicate] (Expr.requireBoolean .standard .predicate predicate)
      fun _ => predicate.type.shape = .primitive .boolean :=
  judgedBy_require TypeRules.standard_isBoolean_iff fun _ => Iff.rfl

/-- A clause is judged by its name and, when there is a property of the name, by its value. -/
theorem SetClause.judgedBy_make (type : TypeUse) (name : String) (value : Expr) :
    JudgedBy (Condition.ofClause type (name, value)) (SetClause.make .standard type name value)
      (SetClause.Fits .standard type (name, value)) := by
  unfold SetClause.make
  cases found : type.shape.structuralProperty? name with
  | none =>
    refine judgedBy_error fun c => ?_
    have unknown : ¬ (Condition.hasProperty type name).holds := by
      rintro ⟨p, hp⟩
      rw [found] at hp
      exact absurd hp (by simp)
    rw [Condition.ofClause, firstFault_cons_iff, or_iff_left fun h => unknown h.1, and_iff_right unknown]
    exact Iff.rfl
  | some property =>
    have named : JudgedBy [.hasProperty type name] (.ok property) (· = property) :=
      judgedBy_ok (List.forall_mem_singleton.mpr ⟨property, found⟩) rfl
    have fitting : JudgedBy [.fitsProperty type name value]
        (requireAssignable .standard .setClauses property.type value)
        fun _ => (Condition.fitsProperty type name value).holds := by
      refine judgedBy_require ?_ ?_
      · simp [Condition.fitsProperty, found, TypeRules.standard]
      · simp [Condition.fitsProperty, found]
    have both : JudgedBy [.fitsProperty type name value]
        (requireAssignable .standard .setClauses property.type value >>= fun _ => pure ⟨property, value⟩)
        (SetClause.Fits .standard type (name, value)) := by
      refine fitting.map fun _ fits => ?_
      obtain ⟨p, hp, promotes⟩ := fits
      obtain rfl := Option.some.inj (found.symm.trans hp)
      exact ⟨found, promotes, rfl⟩
    -- the look-up has succeeded, so the value is judged next
    exact named.bind (f := fun _ => _) fun _ _ => both

/-- Clauses are judged from the left. -/
theorem SetClause.judgedBy_makeAll (type : TypeUse) (given : List (String × Expr)) :
    JudgedBy (given.flatMap (Condition.ofClause type)) (SetClause.makeAll .standard type given)
      (List.Forall₂ (SetClause.Fits .standard type) given) := by
  induction given with
  | nil => exact judgedBy_ok (List.forall_mem_nil _) .nil
  | cons first rest ih =>
    obtain ⟨name, value⟩ := first
    rw [SetClause.makeAll, List.flatMap_cons]
    refine (SetClause.judgedBy_make type name value).bind fun clause fits => ?_
    refine ih.map fun clauses rests => ?_
    exact .cons fits rests

/-- With proper names, a statement is judged by the agreement of its references. -/
theorem Command.judgedBy_assemble {statement : Statement}
    (named : ∀ p ∈ statement.references, isParameterName p.name = true) :
    JudgedBy [.agreement statement.references] (assemble .standard statement) fun c =>
      c.statement = statement ∧ c.options = {} ∧ Parameters.Declares statement.references c.parameters := by
  have equality : TypeRules.standard.equals = Shape.equals := rfl
  cases found : statement.references.find? (Parameters.disagrees statement.references) with
  | none =>
    have agree : ∀ p ∈ statement.references, Parameters.disagrees statement.references p = false := by
      intro p hp
      simpa using List.find?_eq_none.mp found p hp
    obtain ⟨c, assembled, _, declares⟩ := assemble_of_agree equality named agree
    obtain ⟨parameters, _, rfl⟩ := assemble_eq_ok_iff.mp assembled
    rw [assembled]
    exact judgedBy_ok (List.forall_mem_singleton.mpr (Parameters.forall_agree_iff.mp agree)) ⟨rfl, rfl, declares⟩
  | some p =>
    have other := List.find?_some found
    obtain ⟨first, isFirst, _⟩ := Parameters.disagrees_eq_true_iff.mp other
    rw [assemble_of_disagrees equality named found isFirst]
    refine judgedBy_error fun c => ?_
    have conflict : ¬ (Condition.agreement statement.references).holds := by
      intro agree
      rw [Parameters.forall_agree_iff.mpr agree p (List.mem_of_find?_eq_some found)] at other
      exact absurd other Bool.false_ne_true
    rw [firstFault_singleton_iff, and_iff_right conflict]
    constructor
    · rintro ⟨q, f, hq, hf, rfl⟩
      obtain rfl := Option.some.inj (found.symm.trans hq)
      obtain rfl := Option.some.inj (isFirst.symm.trans hf)
      rfl
    · rintro rfl
      exact ⟨p, first, found, isFirst, rfl⟩

/-! ## Changes of an entity set -/

/-- A change of an entity set, with all that it is asked for with. -/
inductive Change where
  | insert (target : Binding) (given : List (String × Expr)) (returning : Option Expr)
  | update (target : Binding) (predicate : Expr) (given : List (String × Expr)) (returning : Option Expr)
  | delete (target : Binding) (predicate : Expr)

namespace Change

/-- What asking for the change results in. -/
def ask (rules : TypeRules) : Change → Except Rejection Command
  | insert target given returning => Command.insert rules target given returning
  | update target predicate given returning => Command.update rules target predicate given returning
  | delete target predicate => Command.delete rules target predicate

/-- The expressions given for the change: what the target ranges over, the predicate, the values of the
    clauses, what is returned. -/
def expressions : Change → List Expr
  | insert target given returning => target.source :: given.map (·.2) ++ returning.toList
  | update target predicate given returning =>
      target.source :: predicate :: given.map (·.2) ++ returning.toList
  | delete target predicate => [target.source, predicate]

/-- The references to parameters in the expressions, in pre-order. -/
def references (change : Change) : List Parameter :=
  change.expressions.flatMap fun e => e.preorder.filterMap Expr.parameter?

/-- **The conditions on a change,** in the order in which they are judged. -/
def conditions (change : Change) : List Condition :=
  match change with
  | insert target given _ =>
      .rangesOverSet target ::
        (given.flatMap (Condition.ofClause target.element.type) ++ [.agreement change.references])
  | update target predicate given _ =>
      .rangesOverSet target :: .isBoolean predicate ::
        (given.flatMap (Condition.ofClause target.element.type) ++ [.agreement change.references])
  | delete target predicate =>
      [.rangesOverSet target, .isBoolean predicate, .agreement change.references]

/-- **The statement of a change.** It is of the parts that were given, and for each given clause it has, in
    its place, the property of that name with that value. -/
inductive IsStatedBy : Change → Statement → Prop
  | insert {target given clauses returning}
      (fit : List.Forall₂ (SetClause.Fits .standard target.element.type) given clauses) :
      IsStatedBy (.insert target given returning) (.insert target clauses returning)
  | update {target predicate given clauses returning}
      (fit : List.Forall₂ (SetClause.Fits .standard target.element.type) given clauses) :
      IsStatedBy (.update target predicate given returning) (.update target predicate clauses returning)
  | delete {target predicate} : IsStatedBy (.delete target predicate) (.delete target predicate)

variable {change : Change} {statement : Statement}

/-- The statement is made of the expressions that were given. -/
theorem IsStatedBy.parts_eq (stated : change.IsStatedBy statement) : statement.parts = change.expressions := by
  cases stated with
  | insert fit =>
    rw [Statement.parts, SetClause.values_of_forall₂_fits fit]
    rfl
  | update fit =>
    rw [Statement.parts, SetClause.values_of_forall₂_fits fit]
    rfl
  | delete => rfl

/-- **The command of a change.** It states the change, with the options that a command starts with and one
    parameter for each name that the change refers to. -/
structure IsDoneBy (change : Change) (c : Command) : Prop where
  stated : change.IsStatedBy c.statement
  plain : c.options = {}
  declares : Parameters.Declares change.references c.parameters

section Held

variable {made : TypeRules} {steps : List Step}
variable (held : ∀ e ∈ change.expressions, (Session.empty.run made steps).Holds e)
include held

/-- Once the change is stated, only its references are left to judge. -/
theorem judgedBy_agreement (stated : change.IsStatedBy statement) :
    JudgedBy [.agreement change.references] (Command.assemble .standard statement) change.IsDoneBy := by
  have same : statement.references = change.references := by
    rw [Statement.references, stated.parts_eq, references]
  have named : ∀ p ∈ statement.references, isParameterName p.name = true := by
    rw [← stated.parts_eq] at held
    exact Session.isParameterName_of_mem_references held
  have judged := Command.judgedBy_assemble named
  rw [same] at judged
  refine ⟨judged.accepted, ?_, judged.rejected⟩
  intro c assembled
  obtain ⟨rfl, plain, declares⟩ := judged.made c assembled
  exact ⟨stated, plain, declares⟩

/-- **Commands follow their conditions.** An insertion, an update or a deletion, asked for with what any run
    holds, succeeds under the standard rules exactly when all its conditions hold. The command is then of the
    very parts that were given. Otherwise it is rejected for the first condition that does not hold. -/
theorem judgedBy_conditions : JudgedBy change.conditions (change.ask .standard) change.IsDoneBy := by
  cases change with
  | insert target given returning =>
    refine (judgedBy_requireTarget target).bind fun _ _ => ?_
    refine (SetClause.judgedBy_makeAll target.element.type given).bind fun clauses fit => ?_
    exact judgedBy_agreement held (.insert fit)
  | update target predicate given returning =>
    refine (judgedBy_requireTarget target).bind fun _ _ => ?_
    refine (judgedBy_requireBoolean predicate).bind fun _ _ => ?_
    refine (SetClause.judgedBy_makeAll target.element.type given).bind fun clauses fit => ?_
    exact judgedBy_agreement held (.update fit)
  | delete target predicate =>
    refine (judgedBy_requireTarget target).bind fun _ _ => ?_
    refine (judgedBy_requireBoolean predicate).bind fun _ _ => ?_
    exact judgedBy_agreement held .delete

end Held

/-- An account, and one parameter referred to as a text and as a number. -/
def textAndNumber : List Step := [
  .make (some "Account") (.model (.entity ⟨"Bank", "Account"⟩ none [⟨⟨"Id", .primitive .int32⟩, true⟩])),
  .make (some "Accounts") (.model (.entitySet "Bank" "Accounts" "Account")),
  .make (some "all") (.build (.scan "Accounts")),
  .make (some "account") (.build (.bind "all" "a")),
  .make (some "always") (.build (.constant (.literal (.boolean true)))),
  .make (some "text") (.build (.parameterReference "n" (.primitive .string))),
  .make (some "number") (.build (.parameterReference "n" (.primitive .int32)))]

/-- The first clause has a value that does not fit, the second is of no property, and their values are
    references in conflict. What is reported is the value of the first. -/
theorem judgedBy_textAndNumber :
    ∃ account always text number,
      (Session.empty.run .standard textAndNumber).find? "account" = some (.binding account) ∧
      (Session.empty.run .standard textAndNumber).find? "always" = some (.expression always) ∧
      (Session.empty.run .standard textAndNumber).find? "text" = some (.expression text) ∧
      (Session.empty.run .standard textAndNumber).find? "number" = some (.expression number) ∧
      Command.update .standard account always [("Id", text), ("Age", number)] none =
        .error (.valueTypeMismatch .setClauses "Edm.Int32" "Edm.String") := by
  obtain ⟨account, always, text, number, id, hasAccount, hasAlways, hasText, hasNumber, ranges, isBoolean,
      found, isNumber, isText, nameOfNumber, nameOfText⟩ :
      ∃ account always text number id,
        (Session.empty.run .standard textAndNumber).find? "account" = some (.binding account) ∧
        (Session.empty.run .standard textAndNumber).find? "always" = some (.expression always) ∧
        (Session.empty.run .standard textAndNumber).find? "text" = some (.expression text) ∧
        (Session.empty.run .standard textAndNumber).find? "number" = some (.expression number) ∧
        account.RangesOverSet ∧ always.type.shape = .primitive .boolean ∧
        account.element.type.shape.structuralProperty? "Id" = some id ∧
        id.type.shape = .primitive .int32 ∧ text.type.shape = .primitive .string ∧
        id.type.text = "Edm.Int32" ∧ text.type.text = "Edm.String" :=
    ⟨_, _, _, _, _, rfl, rfl, rfl, rfl, ⟨_, rfl⟩, rfl, rfl, rfl, rfl, rfl, rfl⟩
  refine ⟨account, always, text, number, hasAccount, hasAlways, hasText, hasNumber, ?_⟩
  have held : ∀ e ∈ (update account always [("Id", text), ("Age", number)] none).expressions,
      (Session.empty.run .standard textAndNumber).Holds e := by
    have all (name : String) (e : Expr) (h : (Session.empty.run .standard textAndNumber).find? name =
        some (.expression e)) : (Session.empty.run .standard textAndNumber).Holds e :=
      Session.Has.holds ⟨name, h⟩ List.mem_cons_self
    refine List.forall_mem_cons.mpr ⟨Session.Has.holds ⟨_, hasAccount⟩ List.mem_cons_self, ?_⟩
    refine List.forall_mem_cons.mpr ⟨all _ _ hasAlways, ?_⟩
    exact forall_mem_pair (all _ _ hasText) (all _ _ hasNumber)
  have mismatch : ¬ (Condition.fitsProperty account.element.type "Id" text).holds := by
    rintro ⟨p, hp, fits⟩
    obtain rfl := Option.some.inj (found.symm.trans hp)
    rw [isNumber, isText] at fits
    exact absurd fits (by decide)
  have reports : (Condition.fitsProperty account.element.type "Id" text).reported
      (.valueTypeMismatch .setClauses "Edm.Int32" "Edm.String") := by
    rw [← nameOfNumber, ← nameOfText]
    exact ⟨id, found, rfl⟩
  refine ((judgedBy_conditions held).rejected _).mpr ?_
  exact .later ranges (.later isBoolean (.later ⟨id, found⟩ (.here mismatch reports)))

end Change
end EntityQuery
