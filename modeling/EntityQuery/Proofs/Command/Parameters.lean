import EntityQuery.Command.Parameters
import EntityQuery.Proofs.Types.Equality
/-!
# `Proofs.Command.Parameters` — declaring parameters in turn

A command declares its parameters reference by reference, and compares each reference with what its name was
declared as. What is declared after some references is told by those references alone: one parameter for
each name, in the order the names came up, each being the first reference to its name. So a reference is
compared with the first of its name, and declaring fails at the first reference that disagrees with it.

## Contents
* `Declares` — what is declared after some references; `Declares.eq_filterMap`, `find?_of_declares`.
* `disagrees` — a reference of another type than the first of its name.
* `declareAll_of_agree`, `declareAll_of_disagrees` — how declaring ends.
* `forall_agree_iff` — agreement with the first is agreement of all with each other.
-/

namespace EntityQuery
namespace Parameters

variable {rules : TypeRules} {seen refs ps : List Parameter} {p first : Parameter}

/-! ## What is declared -/

/-- **Declared after some references.** The names are those of the references, each once, in the order they
    came up, and each parameter is the first reference to its name. -/
structure Declares (seen : List Parameter) (ps : Parameters) : Prop where
  names : ps.map (·.name) = (seen.map (·.name)).eraseDups
  firsts : ∀ p ∈ ps, seen.find? (·.name == p.name) = some p

theorem declares_nil : Declares [] [] := ⟨rfl, fun _ h => absurd h List.not_mem_nil⟩

/-- **The references tell what is declared:** the first of each name. -/
theorem Declares.eq_filterMap (declares : Declares seen ps) :
    ps = (seen.map (·.name)).eraseDups.filterMap fun n => seen.find? (·.name == n) := by
  rw [← declares.names, List.filterMap_map]
  calc ps = ps.filterMap some := List.filterMap_some.symm
    _ = ps.filterMap ((fun n => seen.find? (·.name == n)) ∘ (·.name)) :=
        List.filterMap_congr fun p hp => (declares.firsts p hp).symm

/-- A name is found when one of the list has it. -/
theorem exists_find?_of_mem {n : String} (h : n ∈ seen.map (·.name)) :
    ∃ p, seen.find? (·.name == n) = some p := by
  obtain ⟨p, hp, rfl⟩ := List.mem_map.mp h
  exact Option.isSome_iff_exists.mp (List.find?_isSome.mpr ⟨p, hp, beq_self_eq_true p.name⟩)

/-- What is found by a name has the name. -/
theorem name_of_find?_eq_some {n : String} (h : seen.find? (·.name == n) = some p) : p.name = n := by
  simpa using List.find?_some h

/-- A name that is found is the name of a reference. -/
theorem mem_names_of_find?_eq_some {n : String} (h : seen.find? (·.name == n) = some p) :
    n ∈ seen.map (·.name) := by
  have name := name_of_find?_eq_some h
  exact List.mem_map.mpr ⟨p, List.mem_of_find?_eq_some h, name⟩

/-- **A name is declared as its first reference.** -/
theorem find?_of_declares (declares : Declares seen ps) (n : String) :
    Parameters.find? ps n = seen.find? (·.name == n) := by
  unfold Parameters.find?
  by_cases known : n ∈ seen.map (·.name)
  · have declared : n ∈ ps.map (·.name) := by
      rw [declares.names]
      exact List.mem_eraseDups.mpr known
    obtain ⟨q, hq⟩ := exists_find?_of_mem declared
    -- what is declared under the name is itself the first reference to it
    have isFirst := declares.firsts q (List.mem_of_find?_eq_some hq)
    rw [name_of_find?_eq_some hq] at isFirst
    rw [hq, isFirst]
  · have undeclared : n ∉ ps.map (·.name) := by
      rw [declares.names]
      exact fun h => known (List.mem_eraseDups.mp h)
    rw [List.find?_eq_none.mpr fun q hq => ?_, List.find?_eq_none.mpr fun q hq => ?_]
    · exact fun h => known (List.mem_map.mpr ⟨q, hq, by simpa using h⟩)
    · exact fun h => undeclared (List.mem_map.mpr ⟨q, hq, by simpa using h⟩)

/-- A first reference is declared after those declared before. -/
theorem declares_append_of_new (declares : Declares seen ps) (new : seen.find? (·.name == p.name) = none) :
    Declares (seen ++ [p]) (ps ++ [p]) := by
  have fresh : p.name ∉ seen.map (·.name) := by
    intro h
    obtain ⟨q, hq⟩ := exists_find?_of_mem h
    rw [hq] at new
    exact absurd new (Option.some_ne_none q)
  constructor
  · rw [List.map_append, List.map_append, List.eraseDups_append, declares.names]
    have kept : [p.name].removeAll (seen.map (·.name)) = [p.name] := by
      simpa [List.removeAll] using fresh
    rw [List.map_singleton, kept]
    rfl
  · intro q hq
    rw [List.find?_append]
    rcases List.mem_append.mp hq with hq | hq
    · rw [declares.firsts q hq]
      rfl
    · obtain rfl := List.mem_singleton.mp hq
      rw [new]
      simp

/-- A further reference declares nothing new. -/
theorem declares_append_of_known (declares : Declares seen ps)
    (known : seen.find? (·.name == p.name) = some first) : Declares (seen ++ [p]) ps := by
  constructor
  · rw [List.map_append, List.eraseDups_append, declares.names]
    have gone : [p.name].removeAll (seen.map (·.name)) = [] := by
      simpa [List.removeAll] using mem_names_of_find?_eq_some known
    rw [List.map_singleton, gone, List.eraseDups_nil, List.append_nil]
  · intro q hq
    rw [List.find?_append, declares.firsts q hq]
    rfl

/-! ## Disagreement -/

/-- Whether a reference is of another type than the first of the references to its name. -/
def disagrees (refs : List Parameter) (p : Parameter) : Bool :=
  (refs.find? (·.name == p.name)).any fun first => !first.type.shape.equals p.type.shape

theorem disagrees_eq_true_iff :
    disagrees refs p = true ↔
      ∃ first, refs.find? (·.name == p.name) = some first ∧
        first.type.shape.equals p.type.shape = false := by
  simp only [disagrees, Option.any_eq_true, Bool.not_eq_true']

theorem disagrees_eq_false_of_find? (h : refs.find? (·.name == p.name) = some first) :
    disagrees refs p = false ↔ first.type.shape.equals p.type.shape = true := by
  rw [disagrees, h, Option.any_some, Bool.not_eq_false']

/-- **Agreement is mutual.** No reference disagrees with the first of its name exactly when any two
    references to one name are of one type. -/
theorem forall_agree_iff :
    (∀ p ∈ refs, disagrees refs p = false) ↔
      ∀ p ∈ refs, ∀ q ∈ refs, p.name = q.name → p.type.shape.equals q.type.shape = true := by
  constructor
  · intro agree p hp q hq same
    -- both are of the type of the first reference to their name
    obtain ⟨first, found⟩ := exists_find?_of_mem (List.mem_map_of_mem hp)
    have firstAsP := (disagrees_eq_false_of_find? found).mp (agree p hp)
    rw [same] at found
    have firstAsQ := (disagrees_eq_false_of_find? found).mp (agree q hq)
    exact Shape.equals_trans (Shape.equals_symm firstAsP) firstAsQ
  · intro pairwise p hp
    obtain ⟨first, found⟩ := exists_find?_of_mem (List.mem_map_of_mem hp)
    rw [disagrees_eq_false_of_find? found]
    exact pairwise first (List.mem_of_find?_eq_some found) p hp (name_of_find?_eq_some found)

/-- References that come after do not change what a reference agrees with. -/
theorem disagrees_append_of_mem (h : p ∈ seen) (rest : List Parameter) :
    disagrees (seen ++ rest) p = disagrees seen p := by
  obtain ⟨first, found⟩ := exists_find?_of_mem (List.mem_map_of_mem h)
  rw [disagrees, disagrees, List.find?_append, found, Option.some_or]

/-- A first reference agrees with itself. -/
theorem disagrees_append_of_new (new : seen.find? (·.name == p.name) = none) (rest : List Parameter) :
    disagrees (seen ++ p :: rest) p = false := by
  have isFirst : (seen ++ p :: rest).find? (·.name == p.name) = some p := by
    rw [List.find?_append, new, Option.none_or, List.find?_cons, beq_self_eq_true]
  rw [disagrees_eq_false_of_find? isFirst]
  exact Shape.equals_refl p.type.shape

/-! ## Declaring in turn -/

section Run

variable (equality : rules.equals = Shape.equals)
include equality

/-- **One reference.** A parameter is declared when its reference agrees with the first of its name. -/
theorem declare_of_agrees (declares : Declares seen ps) (named : isParameterName p.name = true)
    (agrees : disagrees (seen ++ [p]) p = false) :
    ∃ ps', declare rules ps p = .ok ps' ∧ Declares (seen ++ [p]) ps' := by
  have found := find?_of_declares declares p.name
  cases h : seen.find? (·.name == p.name) with
  | none =>
    rw [h] at found
    exact ⟨_, declare_eq_ok_of_find?_eq_none named found, declares_append_of_new declares h⟩
  | some first =>
    rw [h] at found
    have isFirst : (seen ++ [p]).find? (·.name == p.name) = some first := by
      rw [List.find?_append, h]
      rfl
    have same := (disagrees_eq_false_of_find? isFirst).mp agrees
    rw [← equality] at same
    exact ⟨_, declare_eq_ok_of_find?_eq_some named found same, declares_append_of_known declares h⟩

/-- **A reference that disagrees** is rejected with the two types, the declared one first. -/
theorem declare_of_disagrees (declares : Declares seen ps) (named : isParameterName p.name = true)
    (h : seen.find? (·.name == p.name) = some first)
    (other : first.type.shape.equals p.type.shape = false) :
    declare rules ps p = .error (.parameterTypeConflict p.name first.type.text p.type.text) := by
  have found : Parameters.find? ps p.name = some first := by rw [find?_of_declares declares, h]
  have name : first.name = p.name := name_of_find?_eq_some h
  rw [← equality] at other
  simp [declare, named, found, other, name, require, bind, Except.bind]

/-- **All agree.** References that agree with the first of their names are all declared. -/
theorem declareAll_of_agree {rest : List Parameter} (declares : Declares seen ps)
    (named : ∀ p ∈ rest, isParameterName p.name = true)
    (agree : ∀ p ∈ rest, disagrees (seen ++ rest) p = false) :
    ∃ ps', declareAll rules ps rest = .ok ps' ∧ Declares (seen ++ rest) ps' := by
  induction rest generalizing seen ps with
  | nil => exact ⟨ps, rfl, by rw [List.append_nil]; exact declares⟩
  | cons p rest ih =>
    rw [List.append_cons] at agree ⊢
    have agrees : disagrees (seen ++ [p]) p = false := by
      rw [← disagrees_append_of_mem (List.mem_append_right _ List.mem_cons_self) rest]
      exact agree p List.mem_cons_self
    obtain ⟨ps', declared, declares'⟩ :=
      declare_of_agrees equality declares (named p List.mem_cons_self) agrees
    rw [declareAll, declared]
    exact ih declares' (fun q hq => named q (List.mem_cons_of_mem _ hq))
      (fun q hq => agree q (List.mem_cons_of_mem _ hq))

/-- **One disagrees.** Declaring stops at the first reference that disagrees with the first of its name. -/
theorem declareAll_of_disagrees {rest : List Parameter} (declares : Declares seen ps)
    (named : ∀ p ∈ rest, isParameterName p.name = true)
    (found : rest.find? (disagrees (seen ++ rest)) = some p)
    (isFirst : (seen ++ rest).find? (·.name == p.name) = some first) :
    declareAll rules ps rest = .error (.parameterTypeConflict p.name first.type.text p.type.text) := by
  induction rest generalizing seen ps with
  | nil => exact absurd found (by simp)
  | cons q rest ih =>
    rw [List.find?_cons] at found
    by_cases other : disagrees (seen ++ q :: rest) q = true
    · -- the first that disagrees has a predecessor of its name among those declared already
      rw [other] at found
      obtain rfl := Option.some.inj found
      have known : seen.find? (·.name == q.name) = some first := by
        cases h : seen.find? (·.name == q.name) with
        | none =>
          rw [disagrees_append_of_new h rest] at other
          exact absurd other Bool.false_ne_true
        | some f =>
          rw [List.find?_append, h, Option.some_or] at isFirst
          exact isFirst
      have types : first.type.shape.equals q.type.shape = false := by
        obtain ⟨f, hf, types⟩ := disagrees_eq_true_iff.mp other
        rw [isFirst] at hf
        exact Option.some.inj hf ▸ types
      rw [declareAll, declare_of_disagrees equality declares (named q List.mem_cons_self) known types]
      rfl
    · rw [Bool.not_eq_true] at other
      rw [other] at found
      rw [List.append_cons] at other found isFirst
      have agrees : disagrees (seen ++ [q]) q = false := by
        rw [← disagrees_append_of_mem (List.mem_append_right _ List.mem_cons_self) rest]
        exact other
      obtain ⟨ps', declared, declares'⟩ :=
        declare_of_agrees equality declares (named q List.mem_cons_self) agrees
      rw [declareAll, declared]
      exact ih declares' (fun r hr => named r (List.mem_cons_of_mem _ hr)) found isFirst

end Run
end Parameters
end EntityQuery
