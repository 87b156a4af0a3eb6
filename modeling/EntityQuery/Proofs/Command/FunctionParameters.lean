import Mathlib.Data.List.Nodup
import EntityQuery.Proofs.Command.Acceptance
import EntityQuery.Proofs.Command.Parameters
/-!
# `Proofs.Command.FunctionParameters` — what the call of a function takes

The call of a function declares the parameters of the function in turn, as other commands declare the
references in their expressions. A reference may come up again, and says nothing new then. But a function
lists each of its parameters for a value of its own, and two of them under one name are merged into one: the
call takes what the function takes exactly when the function gives no name twice.

## Contents
* `declareAll_of_nodup` — parameters of different names are all declared.
* `named_of_declareAll_eq_ok`, `agree_of_declareAll_eq_ok` — what was declared had proper names, and one type for
  each name.
* `length_eraseDups_lt` — a name given twice is counted once.
* `Command.function_takes_first_of_each_name` — the parameters of a call.
-/

namespace EntityQuery
namespace Parameters

variable {rules : TypeRules} {ps qs rest : List Parameter} {p : Parameter}

/-! ## Declaring -/

/-- **Different names.** Parameters that all have different names are declared as they stand. -/
theorem declareAll_of_nodup (named : ∀ p ∈ rest, isParameterName p.name = true)
    (distinct : ((ps ++ rest).map (·.name)).Nodup) : declareAll rules ps rest = .ok (ps ++ rest) := by
  induction rest generalizing ps with
  | nil =>
    rw [List.append_nil]
    rfl
  | cons p rest ih =>
    obtain ⟨hp, named⟩ := List.forall_mem_cons.mp named
    have fresh : Parameters.find? ps p.name = none := by
      unfold Parameters.find?
      rw [List.map_append] at distinct
      apply List.find?_eq_none.mpr
      intro q hq same
      have other := (List.nodup_append.mp distinct).2.2 q.name (List.mem_map_of_mem hq)
      exact other p.name (List.mem_map_of_mem List.mem_cons_self) (beq_iff_eq.mp same)
    rw [List.append_cons] at distinct ⊢
    rw [declareAll, declare_eq_ok_of_find?_eq_none hp fresh]
    exact ih named distinct

/-- Only proper names are declared. -/
theorem named_of_declareAll_eq_ok (h : declareAll rules ps rest = .ok qs) :
    ∀ p ∈ rest, isParameterName p.name = true := by
  induction rest generalizing ps with
  | nil => exact List.forall_mem_nil _
  | cons p rest ih =>
    obtain ⟨more, declared, h⟩ := bind_eq_ok_iff.mp h
    obtain ⟨named, _⟩ := require_bind_eq_ok_iff.mp declared
    exact List.forall_mem_cons.mpr ⟨named, ih h⟩

/-- Parameters of one name are declared together only when they are of one type. -/
theorem agree_of_declareAll_eq_ok (equality : rules.equals = Shape.equals)
    (h : declareAll rules [] rest = .ok qs) : ∀ p ∈ rest, disagrees rest p = false := by
  have named := named_of_declareAll_eq_ok h
  cases found : rest.find? (disagrees rest) with
  | none =>
    intro p hp
    simpa using List.find?_eq_none.mp found p hp
  | some p =>
    obtain ⟨first, isFirst, _⟩ := disagrees_eq_true_iff.mp (List.find?_some found)
    have stopped := declareAll_of_disagrees equality declares_nil named found isFirst
    rw [h] at stopped
    exact absurd stopped (by simp)

/-! ## Counting -/

section EraseDups

variable {α : Type} [BEq α]

/-- Counting things once leaves some of them out, and changes nothing else. -/
theorem eraseDups_sublist : ∀ as : List α, as.eraseDups.Sublist as
  | [] => List.Sublist.slnil
  | a :: as => by
    rw [List.eraseDups_cons]
    exact ((eraseDups_sublist _).trans List.filter_sublist).cons_cons a
termination_by as => as.length
decreasing_by exact Nat.lt_succ_of_le (List.length_filter_le _ _)

theorem nodup_eraseDups [LawfulBEq α] : ∀ as : List α, as.eraseDups.Nodup
  | [] => List.nodup_nil
  | a :: as => by
    rw [List.eraseDups_cons]
    apply List.nodup_cons.mpr
    constructor
    · -- what is left after the first has nothing equal to it
      simp
    · exact nodup_eraseDups _
termination_by as => as.length
decreasing_by exact Nat.lt_succ_of_le (List.length_filter_le _ _)

/-- Where something comes up twice, counting once counts fewer. -/
theorem length_eraseDups_lt [LawfulBEq α] {as : List α} (twice : ¬ as.Nodup) : as.eraseDups.length < as.length := by
  apply Nat.lt_of_le_of_ne (eraseDups_sublist as).length_le
  intro same
  have all := (eraseDups_sublist as).eq_of_length same
  apply twice
  rw [← all]
  exact nodup_eraseDups as

end EraseDups

end Parameters

/-! ## Calls of functions -/

namespace Command

variable {rules : TypeRules} {f : FunctionDecl} {returned : TypeUse}

/-- **The parameters of a call.** Under rules with the standard equality, a function that returns something can
    be called exactly when its parameters have proper names and any two of one name are of one type. The
    call then has one parameter for each name, in the order of the function's first parameters of the names and
    with their very type uses. So when no name is given twice, these are the parameters of the function, and
    otherwise they are fewer. -/
theorem function_takes_first_of_each_name (equality : rules.equals = Shape.equals)
    (returns : f.returnType? = some returned) :
    ((∃ c, function rules f = .ok c) ↔
      (∀ p ∈ f.parameters, isParameterName p.name = true) ∧
        ∀ p ∈ f.parameters, ∀ q ∈ f.parameters, p.name = q.name →
          p.type.shape.equals q.type.shape = true) ∧
    ∀ c, function rules f = .ok c →
      c.statement = .function f returned ∧
        c.parameters.map (·.name) = (f.parameters.map (·.name)).eraseDups ∧
        (∀ p ∈ c.parameters, f.parameters.find? (·.name == p.name) = some p) ∧
        ((f.parameters.map (·.name)).Nodup → c.parameters = f.parameters) ∧
        (¬ (f.parameters.map (·.name)).Nodup → c.parameters.length < f.parameters.length) := by
  constructor
  · rw [← Parameters.forall_agree_iff]
    constructor
    · rintro ⟨c, h⟩
      obtain ⟨_, parameters, _, declared, _⟩ := function_eq_ok_iff.mp h
      exact ⟨Parameters.named_of_declareAll_eq_ok declared,
        Parameters.agree_of_declareAll_eq_ok equality declared⟩
    · rintro ⟨named, agree⟩
      obtain ⟨parameters, declared, _⟩ :=
        Parameters.declareAll_of_agree equality Parameters.declares_nil named agree
      exact ⟨_, function_eq_ok_iff.mpr ⟨returned, parameters, returns, declared, rfl⟩⟩
  · intro c h
    obtain ⟨result, parameters, result_eq, declared, rfl⟩ := function_eq_ok_iff.mp h
    obtain rfl := Option.some.inj (returns.symm.trans result_eq)
    have named := Parameters.named_of_declareAll_eq_ok declared
    have agree := Parameters.agree_of_declareAll_eq_ok equality declared
    obtain ⟨all, declaredAll, declares⟩ :=
      Parameters.declareAll_of_agree equality Parameters.declares_nil named agree
    obtain rfl := Except.ok.inj (declared.symm.trans declaredAll)
    have declares : Parameters.Declares f.parameters parameters := declares
    refine ⟨rfl, declares.names, declares.firsts, ?_, ?_⟩
    · intro distinct
      exact Except.ok.inj (declared.symm.trans (Parameters.declareAll_of_nodup named distinct))
    · intro twice
      have fewer := Parameters.length_eraseDups_lt twice
      rw [← declares.names] at fewer
      simpa using fewer

/-- A function of two parameters of different names. -/
def scale : FunctionDecl where
  name := ⟨"Sales", "Scale"⟩
  parameters := [⟨"price", .root 0, .primitive .decimal⟩, ⟨"factor", .root 1, .primitive .int32⟩]
  returnType? := some ⟨.root 2, .primitive .decimal⟩

/-- The call takes both parameters, as they are. -/
theorem function_takes_price_and_factor :
    scale.returnType? = some ⟨.root 2, .primitive .decimal⟩ ∧
      ∃ c, function .standard scale = .ok c ∧ c.parameters = scale.parameters := by
  have equality : TypeRules.standard.equals = Shape.equals := rfl
  have returns : scale.returnType? = some ⟨.root 2, .primitive .decimal⟩ := rfl
  obtain ⟨success, parameters⟩ := function_takes_first_of_each_name equality returns
  have named : ∀ p ∈ scale.parameters, isParameterName p.name = true := by decide
  have agree : ∀ p ∈ scale.parameters, ∀ q ∈ scale.parameters, p.name = q.name →
      p.type.shape.equals q.type.shape = true := by decide
  obtain ⟨c, h⟩ := success.mpr ⟨named, agree⟩
  obtain ⟨_, _, _, whenDistinct, _⟩ := parameters c h
  exact ⟨returns, c, h, whenDistinct (by decide)⟩

/-- A function of two parameters of one name. -/
def add : FunctionDecl where
  name := ⟨"Sales", "Add"⟩
  parameters := [⟨"x", .root 0, .primitive .int32⟩, ⟨"x", .root 1, .primitive .int32⟩]
  returnType? := some ⟨.root 2, .primitive .int32⟩

/-- The call takes one value, and the function two. -/
theorem function_merges_parameters_of_one_name :
    ∃ c, function .standard add = .ok c ∧ c.parameters = [⟨"x", .root 0, .primitive .int32⟩] ∧
      add.parameters.length = 2 :=
  ⟨_, rfl, rfl, rfl⟩

end Command
end EntityQuery
