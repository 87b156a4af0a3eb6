import Mathlib.Data.List.Nodup
import EntityQuery.Proofs.Types.Inheritance
import EntityQuery.Proofs.Types.Promotion
/-!
# `Proofs.Types.BaseChain` — what is inherited, in three directions

Three questions go along one base chain, each in its own direction. All properties are listed from the root
down, a property is looked up from the most derived type up, and a key is that of the nearest type that declares
one. They answer together: what is listed can be looked up and nothing else can, what a type inherits it lists
in the places where its base lists it, and where no name comes up twice a look-up gives the one property of
the name, the same for a type and for its bases.

## Contents
* `inductionOnBase` — entity types are roots or derive from their base.
* `Nearest` — the first type on a lineage of which something holds; `nearest_derive_iff`.
* `isPrefix_properties`, `property?_eq_some_iff_nearest`, `keyMembers_of_nearest` — each question by itself.
* `inheritance_agrees` — all of them together.
-/

namespace EntityQuery

/-! ## Declarations -/

namespace EntityDecl

variable {τ : Type} {d : EntityDecl τ} {n : String} {p : Property τ}

/-- The declaration has a property of the name. -/
def Declares (d : EntityDecl τ) (n : String) : Prop := ∃ p ∈ d.properties, p.name = n

/-- A look-up in one declaration gives the first property of the name. -/
theorem property?_eq_some_iff :
    d.property? n = some p ↔
      p.name = n ∧ ∃ before after, d.properties = before ++ p :: after ∧ ∀ q ∈ before, q.name ≠ n := by
  unfold property?
  rw [List.find?_eq_some_iff_append]
  simp

theorem property?_eq_none_iff : d.property? n = none ↔ ¬ d.Declares n := by
  rw [Declares, ← property?_isSome_iff, Bool.not_eq_true, Option.isSome_eq_false_iff, Option.isNone_iff_eq_none]

end EntityDecl

namespace EntityType

variable {τ : Type} {e b t : EntityType τ} {d : EntityDecl τ} {n : String} {p q : Property τ}

/-! ## Lineages -/

/-- **Induction along the base chain.** What holds of all types without a base, and of a type whenever it holds of
    its base, holds of all entity types. -/
theorem inductionOnBase {P : EntityType τ → Prop} (root : ∀ d, P (root d)) (derive : ∀ d b, P b → P (derive d b))
    (e : EntityType τ) : P e := by
  obtain ⟨own, bases⟩ := e
  induction bases generalizing own with
  | nil => exact root own
  | cons d ds ih => exact derive own ⟨d, ds⟩ (ih d)

@[simp] theorem lineage_root (d : EntityDecl τ) : (root d).lineage = [root d] := rfl

@[simp] theorem lineage_derive (d : EntityDecl τ) (b : EntityType τ) :
    (derive d b).lineage = derive d b :: b.lineage := rfl

/-- **The nearest.** The first type, from the given one towards the root, of whose own declaration something
    holds. -/
inductive Nearest (P : EntityDecl τ → Prop) : EntityType τ → EntityType τ → Prop
  | here {e : EntityType τ} (holds : P e.own) : Nearest P e e
  | further {e b t : EntityType τ} (other : ¬ P e.own) (base : e.base? = some b) (rest : Nearest P b t) :
      Nearest P e t

section Nearest

variable {P : EntityDecl τ → Prop}

theorem nearest_root_iff : Nearest P (root d) t ↔ P d ∧ t = root d := by
  constructor
  · intro nearest
    cases nearest with
    | here holds => exact ⟨holds, rfl⟩
    | further _ base _ => exact absurd ((base?_root d).symm.trans base) nofun
  · rintro ⟨holds, rfl⟩
    exact .here holds

/-- The nearest type is the derived one, or else the nearest from its base on. -/
theorem nearest_derive_iff :
    Nearest P (derive d b) t ↔ P d ∧ t = derive d b ∨ ¬ P d ∧ Nearest P b t := by
  constructor
  · intro nearest
    cases nearest with
    | here holds => exact .inl ⟨holds, rfl⟩
    | further other base rest =>
      obtain rfl := Option.some.inj ((base?_derive d b).symm.trans base)
      exact .inr ⟨other, rest⟩
  · rintro (⟨holds, rfl⟩ | ⟨other, rest⟩)
    · exact .here holds
    · exact .further other (base?_derive d b) rest

/-- Either there is a nearest type, or nothing on the lineage qualifies. -/
theorem exists_nearest_or (P : EntityDecl τ → Prop) (e : EntityType τ) :
    (∃ t, Nearest P e t) ∨ ∀ t ∈ e.lineage, ¬ P t.own := by
  induction e using inductionOnBase with
  | root d =>
    by_cases holds : P d
    · exact .inl ⟨root d, .here holds⟩
    · refine .inr ?_
      rw [lineage_root]
      exact List.forall_mem_singleton.mpr holds
  | derive d b ih =>
    by_cases holds : P d
    · exact .inl ⟨derive d b, .here holds⟩
    · rcases ih with ⟨t, nearest⟩ | none
      · exact .inl ⟨t, .further holds (base?_derive d b) nearest⟩
      · refine .inr ?_
        rw [lineage_derive]
        exact List.forall_mem_cons.mpr ⟨holds, none⟩

end Nearest

/-! ## From the root down -/

/-- **A base lists first.** What a type lists begins with what each type on its base chain lists. -/
theorem isPrefix_properties (h : b ∈ e.lineage) : b.properties <+: e.properties := by
  induction e using inductionOnBase with
  | root d =>
    obtain rfl := List.mem_singleton.mp h
    exact List.prefix_rfl
  | derive d c ih =>
    rw [lineage_derive] at h
    rcases List.mem_cons.mp h with rfl | h
    · exact List.prefix_rfl
    · rw [properties_derive]
      exact (ih h).trans (List.prefix_append _ _)

theorem mem_properties_iff : p ∈ e.properties ↔ ∃ d ∈ e.chain, p ∈ d.properties := by
  simp [properties]

/-! ## From the most derived type up -/

/-- **What is listed is found,** and nothing else is. -/
theorem exists_property?_iff : (∃ p, e.property? n = some p) ↔ ∃ p ∈ e.properties, p.name = n := by
  rw [← Option.isSome_iff_exists, property?_isSome_iff]
  constructor
  · rintro ⟨d, hd, p, hp, name⟩
    exact ⟨p, mem_properties_iff.mpr ⟨d, hd, hp⟩, name⟩
  · rintro ⟨p, hp, name⟩
    obtain ⟨d, hd, hp⟩ := mem_properties_iff.mp hp
    exact ⟨d, hd, p, hp, name⟩

/-- **The most derived declaration wins.** A look-up is answered by the nearest type that declares the name. -/
theorem property?_eq_some_iff_nearest :
    e.property? n = some p ↔ ∃ t, Nearest (·.Declares n) e t ∧ t.own.property? n = some p := by
  induction e using inductionOnBase with
  | root d =>
    have only : (root d).property? n = d.property? n := by
      rw [property?, chain_root, List.findSome?_singleton]
    simp only [nearest_root_iff, only]
    constructor
    · intro found
      have declares : d.Declares n := EntityDecl.property?_isSome_iff.mp (Option.isSome_of_eq_some found)
      exact ⟨root d, ⟨declares, rfl⟩, found⟩
    · rintro ⟨_, ⟨_, rfl⟩, found⟩
      exact found
  | derive d b ih =>
    simp only [property?_derive, nearest_derive_iff]
    by_cases declares : d.Declares n
    · obtain ⟨own, found⟩ := Option.isSome_iff_exists.mp (EntityDecl.property?_isSome_iff.mpr declares)
      rw [found, Option.some_or]
      constructor
      · intro same
        exact ⟨derive d b, .inl ⟨declares, rfl⟩, found.trans same⟩
      · rintro ⟨t, ⟨_, rfl⟩ | ⟨other, _⟩, h⟩
        · exact found.symm.trans h
        · exact absurd declares other
    · rw [EntityDecl.property?_eq_none_iff.mpr declares, Option.none_or, ih]
      constructor
      · rintro ⟨t, nearest, found⟩
        exact ⟨t, .inr ⟨declares, nearest⟩, found⟩
      · rintro ⟨t, ⟨declared, _⟩ | ⟨_, nearest⟩, found⟩
        · exact absurd declared declares
        · exact ⟨t, nearest, found⟩

/-- What is found is listed, under its name. -/
theorem mem_properties_of_property? (found : e.property? n = some p) : p ∈ e.properties ∧ p.name = n := by
  obtain ⟨d, hd, found⟩ := List.exists_of_findSome?_eq_some found
  obtain ⟨name, before, after, split, _⟩ := EntityDecl.property?_eq_some_iff.mp found
  have mem : p ∈ d.properties := by simp [split]
  exact ⟨mem_properties_iff.mpr ⟨d, hd, mem⟩, name⟩

section Distinct

variable (distinct : (e.properties.map (·.name)).Nodup)
include distinct

/-- Where no name comes up twice, a listed property is the one that is found by its name. -/
theorem property?_of_mem_properties (h : p ∈ e.properties) : e.property? p.name = some p := by
  obtain ⟨q, found⟩ := exists_property?_iff.mpr ⟨p, h, rfl⟩
  obtain ⟨hq, name⟩ := mem_properties_of_property? found
  rw [found, List.inj_on_of_nodup_map distinct hq h name]

/-- Where no name comes up twice, a name stands in one place only. -/
theorem place_unique {i j : Nat} (hi : e.properties[i]? = some p) (hj : e.properties[j]? = some q)
    (same : q.name = p.name) : j = i := by
  have short : i < (e.properties.map (·.name)).length := by
    rw [List.length_map]
    exact (List.getElem?_eq_some_iff.mp hi).1
  apply Eq.symm
  apply (List.getElem?_inj short distinct).mp
  rw [List.getElem?_map, List.getElem?_map, hi, hj, Option.map_some, Option.map_some, same]

/-- **Inherited properties stay the same.** Where no name comes up twice, a look-up in a base gives the very
    property that the look-up in the type gives. -/
theorem property?_of_base (onChain : b ∈ e.lineage) (found : b.property? n = some p) : e.property? n = some p := by
  obtain ⟨hp, rfl⟩ := mem_properties_of_property? found
  exact property?_of_mem_properties distinct ((isPrefix_properties onChain).subset hp)

end Distinct

/-! ## From the nearest type that declares a key -/

/-- The key is that of the nearest type that declares one. -/
theorem keyMembers_of_nearest (nearest : Nearest (·.keyNames ≠ []) e t) : e.keyMembers = t.own.keyNames := by
  induction e using inductionOnBase with
  | root d =>
    obtain ⟨some, rfl⟩ := nearest_root_iff.mp nearest
    have some : (!d.keyNames.isEmpty) = true := by simpa using some
    rw [keyMembers, chain_root, List.map_singleton, List.find?_cons, some]
    rfl
  | derive d b ih =>
    rw [keyMembers_derive]
    rcases nearest_derive_iff.mp nearest with ⟨some, rfl⟩ | ⟨none, rest⟩
    · rw [if_neg (by rw [List.isEmpty_iff]; exact some)]
      rfl
    · rw [if_pos (List.isEmpty_iff.mpr (not_not.mp none)), ih rest]

/-- There is no key where no type on the lineage declares one. -/
theorem keyMembers_eq_nil (none : ∀ t ∈ e.lineage, t.own.keyNames = []) : e.keyMembers = [] := by
  induction e using inductionOnBase with
  | root d =>
    have none : d.keyNames = [] := none (root d) List.mem_cons_self
    rw [keyMembers, chain_root, List.map_singleton, none]
    rfl
  | derive d b ih =>
    rw [lineage_derive] at none
    obtain ⟨own, rest⟩ := List.forall_mem_cons.mp none
    have own : d.keyNames.isEmpty = true := List.isEmpty_iff.mpr own
    rw [keyMembers_derive, if_pos own, ih rest]

/-! ## Together -/

/-- **Listing and looking up agree along the base chain.** For a type and any type on its base chain: the
    base's properties are the first ones of the type. A name is found exactly when it is listed, and found is its
    first declaration in the most derived type that declares it. Where no name comes up twice, that is the
    property in the one place where the name is listed, and the very one that the base gives under the name. The
    key is that of the nearest type that declares any, empty when none does, and each of its members is found. -/
theorem inheritance_agrees (onChain : b ∈ e.lineage) :
    b.properties <+: e.properties ∧
    (∀ n, (∃ p, e.property? n = some p) ↔ ∃ p ∈ e.properties, p.name = n) ∧
    (∀ n (p : Property τ), e.property? n = some p ↔ p.name = n ∧ ∃ t before after, Nearest (·.Declares n) e t ∧
      t.own.properties = before ++ p :: after ∧ ∀ q ∈ before, q.name ≠ n) ∧
    ((e.properties.map (·.name)).Nodup →
      (∀ (i : Nat) p, e.properties[i]? = some p → e.property? p.name = some p ∧
        ∀ (j : Nat) q, e.properties[j]? = some q → q.name = p.name → j = i) ∧
      ∀ n p, b.property? n = some p → e.property? n = some p) ∧
    ((∃ t, Nearest (·.keyNames ≠ []) e t ∧ e.keyMembers = t.own.keyNames) ∨
      (∀ t ∈ e.lineage, t.own.keyNames = []) ∧ e.keyMembers = []) ∧
    ∀ n ∈ e.keyMembers, ∃ p, e.property? n = some p := by
  refine ⟨isPrefix_properties onChain, fun n => exists_property?_iff, ?_, ?_, ?_, ?_⟩
  · intro n p
    rw [property?_eq_some_iff_nearest]
    simp only [EntityDecl.property?_eq_some_iff]
    constructor
    · rintro ⟨t, nearest, name, before, after, split, first⟩
      exact ⟨name, t, before, after, nearest, split, first⟩
    · rintro ⟨name, t, before, after, nearest, split, first⟩
      exact ⟨t, nearest, name, before, after, split, first⟩
  · intro distinct
    refine ⟨fun i p hp => ⟨?_, fun j q hq same => place_unique distinct hp hq same⟩, ?_⟩
    · exact property?_of_mem_properties distinct (List.mem_of_getElem? hp)
    · intro n p found
      exact property?_of_base distinct onChain found
  · rcases exists_nearest_or (·.keyNames ≠ []) e with ⟨t, nearest⟩ | none
    · exact .inl ⟨t, nearest, keyMembers_of_nearest nearest⟩
    · have none : ∀ t ∈ e.lineage, t.own.keyNames = [] := fun t ht => not_not.mp (none t ht)
      exact .inr ⟨none, keyMembers_eq_nil none⟩
  · intro n h
    exact exists_property?_of_mem_keyMembers h

/-- The `i`-th scalar property of three types that derive from one another. -/
def staffProperty (i : Nat) (name : String) (kind : Primitive) : Property TypeUse :=
  ⟨name, .root i, .primitive kind⟩

/-- A person, with a key and a name. -/
def person : Entity :=
  root (.declare (fun _ => []) ⟨"Model", "Person"⟩
    [⟨staffProperty 0 "Id" .int32, true⟩, ⟨staffProperty 1 "Name" .string, false⟩])

/-- A manager: an employee, who is a person with a salary, with a level and no key of its own. -/
def manager : Entity :=
  derive (.declare (fun _ => []) ⟨"Model", "Manager"⟩ [⟨staffProperty 3 "Level" .byte, false⟩])
    (derive (.declare (fun _ => []) ⟨"Model", "Employee"⟩ [⟨staffProperty 2 "Salary" .decimal, false⟩]) person)

/-- Two steps up: a manager has the very name property of a person, and the key of a person. -/
theorem inheritance_agrees_manager :
    person ∈ manager.lineage ∧ (manager.properties.map (·.name)).Nodup ∧
      manager.property? "Name" = some (staffProperty 1 "Name" .string) ∧
      manager.property? "Id" = some (staffProperty 0 "Id" .int32) ∧ "Id" ∈ manager.keyMembers := by
  have onChain : person ∈ manager.lineage := by simp [manager, person]
  have distinct : (manager.properties.map (·.name)).Nodup := by decide
  obtain ⟨_, _, _, unique, _, _⟩ := inheritance_agrees onChain
  obtain ⟨placed, same⟩ := unique distinct
  refine ⟨onChain, distinct, same "Name" _ rfl, (placed 0 _ rfl).1, by decide⟩

end EntityType
end EntityQuery
