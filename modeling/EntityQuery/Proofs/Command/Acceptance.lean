import EntityQuery.Command.Basic
import EntityQuery.Proofs.Builder.Acceptance
/-!
# `Proofs.Command.Acceptance` — when a command is assembled, and from what

One lemma for each way to assemble a command, under any type rules: it succeeds exactly when the checks of
the statement pass and its parameters can be declared, and the command then holds the statement that was
asked for, with one set clause for each clause in the order they were given.

## Contents
* `SetClause.make_eq_ok_iff`, `SetClause.makeAll_eq_ok_iff` — set clauses one by one.
* `Command.assemble_eq_ok_iff` and the five ways to assemble a command.
-/

namespace EntityQuery

variable {rules : TypeRules}

/-! ## Targets and set clauses -/

/-- **Ranges over an entity set.** The binding's source is a scan of an entity set. -/
def BindingOf.RangesOverSet (target : Binding) : Prop :=
  ∃ set, target.source.node = .scan (.entities set)

theorem requireTarget_eq_ok_iff {target : Binding} :
    requireTarget target = .ok () ↔ target.RangesOverSet := by
  unfold requireTarget BindingOf.RangesOverSet
  split
  · rename_i set h
    exact iff_of_true rfl ⟨set, h⟩
  · rename_i h
    refine iff_of_false (by simp) ?_
    rintro ⟨set, hs⟩
    exact h set hs

/-- **Fits as a set clause.** The name is that of a structural property of the type, and the value may stand
    for a value of it. -/
def SetClause.Fits (rules : TypeRules) (type : TypeUse) (given : String × Expr) (clause : SetClause) :
    Prop :=
  type.shape.structuralProperty? given.1 = some clause.property ∧
    rules.promotes given.2.type.shape clause.property.type.shape = true ∧ clause.value = given.2

theorem SetClause.make_eq_ok_iff {type : TypeUse} {name : String} {value : Expr} {c : SetClause} :
    SetClause.make rules type name value = .ok c ↔ SetClause.Fits rules type (name, value) c := by
  unfold SetClause.make SetClause.Fits
  cases type.shape.structuralProperty? name with
  | none => simp
  | some property =>
    show (requireAssignable rules .setClauses property.type value >>= fun _ => _) = .ok c ↔ _
    rw [bind_eq_ok_iff, Option.some.injEq]
    constructor
    · rintro ⟨⟨⟩, fits, h⟩
      obtain rfl := pure_eq_ok_iff.mp h
      exact ⟨rfl, requireAssignable_eq_ok_iff.mp fits, rfl⟩
    · obtain ⟨p, v⟩ := c
      rintro ⟨rfl, fits, rfl⟩
      exact ⟨(), requireAssignable_eq_ok_iff.mpr fits, rfl⟩

theorem SetClause.makeAll_eq_ok_iff {type : TypeUse} {given : List (String × Expr)}
    {clauses : List SetClause} :
    SetClause.makeAll rules type given = .ok clauses ↔
      List.Forall₂ (SetClause.Fits rules type) given clauses := by
  induction given generalizing clauses with
  | nil =>
    rw [SetClause.makeAll, List.forall₂_nil_left_iff, Except.ok.injEq]
    exact eq_comm
  | cons first rest ih =>
    obtain ⟨name, value⟩ := first
    rw [SetClause.makeAll, bind_eq_ok_iff, List.forall₂_cons_left_iff]
    constructor
    · rintro ⟨c, hc, h⟩
      obtain ⟨cs, hcs, h⟩ := bind_eq_ok_iff.mp h
      exact ⟨c, cs, SetClause.make_eq_ok_iff.mp hc, ih.mp hcs, pure_eq_ok_iff.mp h⟩
    · rintro ⟨c, cs, hc, hcs, rfl⟩
      exact ⟨c, SetClause.make_eq_ok_iff.mpr hc, bind_eq_ok_iff.mpr ⟨cs, ih.mpr hcs, rfl⟩⟩

/-- Set clauses hold the very values they were asked for with. -/
theorem SetClause.values_of_forall₂_fits {type : TypeUse} {given : List (String × Expr)}
    {clauses : List SetClause} (h : List.Forall₂ (SetClause.Fits rules type) given clauses) :
    clauses.map (·.value) = given.map (·.2) := by
  induction h with
  | nil => rfl
  | cons first _ ih => rw [List.map_cons, List.map_cons, first.2.2, ih]

theorem Expr.requireBoolean_eq_ok_iff {blamed : Argument} {operand : Expr} :
    Expr.requireBoolean rules blamed operand = .ok () ↔ rules.isBoolean operand.type.shape = true := by
  rw [Expr.requireBoolean, require_eq_ok_iff]

/-! ## Parameters -/

/-- A parameter is declared once, so declaring one keeps those there are and adds none but it. -/
theorem Parameters.mem_of_declare_eq_ok {ps qs : Parameters} {p q : Parameter}
    (h : Parameters.declare rules ps p = .ok qs) (hq : q ∈ qs) : q ∈ ps ∨ q = p := by
  obtain ⟨_, h⟩ := require_bind_eq_ok_iff.mp h
  cases found : ps.find? p.name with
  | none =>
    rw [found] at h
    obtain rfl := pure_eq_ok_iff.mp h
    rcases List.mem_append.mp hq with hq | hq
    · exact .inl hq
    · exact .inr (List.mem_singleton.mp hq)
  | some first =>
    rw [found] at h
    obtain ⟨_, h⟩ := require_bind_eq_ok_iff.mp h
    obtain rfl := pure_eq_ok_iff.mp h
    exact .inl hq

/-- The parameters that are declared are among those asked for. -/
theorem Parameters.mem_of_declareAll_eq_ok {refs ps qs : List Parameter} {q : Parameter}
    (h : Parameters.declareAll rules ps refs = .ok qs) (hq : q ∈ qs) : q ∈ ps ∨ q ∈ refs := by
  induction refs generalizing ps with
  | nil =>
    obtain rfl := Except.ok.inj h
    exact .inl hq
  | cons p rest ih =>
    obtain ⟨more, declared, h⟩ := bind_eq_ok_iff.mp h
    rcases ih h with known | later
    · rcases mem_of_declare_eq_ok declared known with known | rfl
      · exact .inl known
      · exact .inr List.mem_cons_self
    · exact .inr (List.mem_cons_of_mem _ later)

/-! ## Commands -/

namespace Command

variable {c : Command}

theorem assemble_eq_ok_iff {statement : Statement} :
    assemble rules statement = .ok c ↔
      ∃ parameters, Parameters.declareAll rules [] statement.parameterReferences = .ok parameters ∧
        c = ⟨statement, parameters, {}⟩ := by
  rw [assemble, bind_eq_ok_iff]
  simp only [pure_eq_ok_iff]

theorem insert_eq_ok_iff {target : Binding} {given : List (String × Expr)} {returning : Option Expr} :
    insert rules target given returning = .ok c ↔
      target.RangesOverSet ∧ ∃ clauses, List.Forall₂ (SetClause.Fits rules target.element.type) given clauses ∧
        assemble rules (.insert target clauses returning) = .ok c := by
  rw [insert, bind_eq_ok_iff]
  constructor
  · rintro ⟨⟨⟩, ranges, h⟩
    obtain ⟨clauses, made, h⟩ := bind_eq_ok_iff.mp h
    exact ⟨requireTarget_eq_ok_iff.mp ranges, clauses, SetClause.makeAll_eq_ok_iff.mp made, h⟩
  · rintro ⟨ranges, clauses, made, h⟩
    exact ⟨(), requireTarget_eq_ok_iff.mpr ranges,
      bind_eq_ok_iff.mpr ⟨clauses, SetClause.makeAll_eq_ok_iff.mpr made, h⟩⟩

theorem update_eq_ok_iff {target : Binding} {predicate : Expr} {given : List (String × Expr)}
    {returning : Option Expr} :
    update rules target predicate given returning = .ok c ↔
      target.RangesOverSet ∧ rules.isBoolean predicate.type.shape = true ∧
        ∃ clauses, List.Forall₂ (SetClause.Fits rules target.element.type) given clauses ∧
          assemble rules (.update target predicate clauses returning) = .ok c := by
  rw [update, bind_eq_ok_iff]
  constructor
  · rintro ⟨⟨⟩, ranges, h⟩
    obtain ⟨⟨⟩, condition, h⟩ := bind_eq_ok_iff.mp h
    obtain ⟨clauses, made, h⟩ := bind_eq_ok_iff.mp h
    exact ⟨requireTarget_eq_ok_iff.mp ranges, Expr.requireBoolean_eq_ok_iff.mp condition, clauses,
      SetClause.makeAll_eq_ok_iff.mp made, h⟩
  · rintro ⟨ranges, condition, clauses, made, h⟩
    refine ⟨(), requireTarget_eq_ok_iff.mpr ranges, bind_eq_ok_iff.mpr ⟨(), ?_, ?_⟩⟩
    · exact Expr.requireBoolean_eq_ok_iff.mpr condition
    · exact bind_eq_ok_iff.mpr ⟨clauses, SetClause.makeAll_eq_ok_iff.mpr made, h⟩

theorem delete_eq_ok_iff {target : Binding} {predicate : Expr} :
    delete rules target predicate = .ok c ↔
      target.RangesOverSet ∧ rules.isBoolean predicate.type.shape = true ∧
        assemble rules (.delete target predicate) = .ok c := by
  rw [delete, bind_eq_ok_iff]
  constructor
  · rintro ⟨⟨⟩, ranges, h⟩
    obtain ⟨⟨⟩, condition, h⟩ := bind_eq_ok_iff.mp h
    exact ⟨requireTarget_eq_ok_iff.mp ranges, Expr.requireBoolean_eq_ok_iff.mp condition, h⟩
  · rintro ⟨ranges, condition, h⟩
    exact ⟨(), requireTarget_eq_ok_iff.mpr ranges,
      bind_eq_ok_iff.mpr ⟨(), Expr.requireBoolean_eq_ok_iff.mpr condition, h⟩⟩

theorem function_eq_ok_iff {f : FunctionDecl} :
    function rules f = .ok c ↔
      ∃ returned parameters, f.returnType? = some returned ∧
        Parameters.declareAll rules [] f.parameters = .ok parameters ∧
        c = ⟨.function f returned, parameters, {}⟩ := by
  rw [function, bind_eq_ok_iff]
  simp only [bind_eq_ok_iff, FunctionDecl.returnType_eq_ok_iff, pure_eq_ok_iff]
  constructor
  · rintro ⟨returned, hr, parameters, hp, h⟩
    exact ⟨returned, parameters, hr, hp, h⟩
  · rintro ⟨returned, parameters, hr, hp, h⟩
    exact ⟨returned, hr, parameters, hp, h⟩

end Command
end EntityQuery
