import Mathlib.Data.List.Forall2
import EntityQuery.Model.Entity
/-!
# `Proofs.Types.Inheritance` — looking things up along a base chain

A property is looked up from the most derived type upwards, and a key is that of the nearest type that
declares one. The two look-ups go along the same chain, so every member of a key, inherited or not, names a
property: some declaration on the chain has it, though one nearer by may hide it.

## Contents
* `EntityType.property?_isSome_iff` — a property is found when some declaration on the chain has it.
* `EntityType.exists_mem_chain_of_mem_keyMembers` — the declaration that a key comes from.
* `EntityType.keyProperties` with `forall₂_keyProperties` — one property for each member of the key.
-/

namespace EntityQuery
namespace EntityType

variable {τ : Type} {e : EntityType τ} {n : String}

/-- A property is found when some declaration on the chain has one of the name. -/
theorem property?_isSome_iff :
    (e.property? n).isSome = true ↔ ∃ d ∈ e.chain, ∃ p ∈ d.properties, p.name = n := by
  rw [property?, List.findSome?_isSome_iff]
  simp only [EntityDecl.property?_isSome_iff]

/-- The members of a key are the key names of one declaration on the chain. -/
theorem exists_mem_chain_of_mem_keyMembers (h : n ∈ e.keyMembers) : ∃ d ∈ e.chain, n ∈ d.keyNames := by
  unfold keyMembers at h
  cases nearest : (e.chain.map (·.keyNames)).find? (!·.isEmpty) with
  | none =>
    rw [nearest] at h
    exact absurd h List.not_mem_nil
  | some names =>
    rw [nearest] at h
    obtain ⟨d, hd, rfl⟩ := List.mem_map.mp (List.mem_of_find?_eq_some nearest)
    exact ⟨d, hd, h⟩

/-- **Keys name properties.** Each member of a key, inherited or not, is found as a property. -/
theorem exists_property?_of_mem_keyMembers (h : n ∈ e.keyMembers) : ∃ p, e.property? n = some p := by
  obtain ⟨d, hd, key⟩ := exists_mem_chain_of_mem_keyMembers h
  apply Option.isSome_iff_exists.mp
  apply property?_isSome_iff.mpr
  exact ⟨d, hd, EntityDecl.exists_property_of_mem_keyNames key⟩

/-- The properties that make up the key, in the order of its members. -/
def keyProperties (e : EntityType τ) : List (Property τ) := e.keyMembers.filterMap e.property?

/-- Where everything is found, what is found stands one for one with what was looked for. -/
theorem forall₂_filterMap {α β : Type} {f : α → Option β} {as : List α} (found : ∀ a ∈ as, ∃ b, f a = some b) :
    List.Forall₂ (fun a b => f a = some b) as (as.filterMap f) := by
  induction as with
  | nil => exact .nil
  | cons a as ih =>
    obtain ⟨⟨b, hb⟩, rest⟩ := List.forall_mem_cons.mp found
    rw [List.filterMap_cons_some hb]
    exact .cons hb (ih rest)

/-- **One property for each member of the key.** -/
theorem forall₂_keyProperties (e : EntityType τ) :
    List.Forall₂ (fun n p => e.property? n = some p) e.keyMembers e.keyProperties := by
  apply forall₂_filterMap
  intro n h
  exact exists_property?_of_mem_keyMembers h

theorem length_keyProperties (e : EntityType τ) : e.keyProperties.length = e.keyMembers.length :=
  (forall₂_keyProperties e).length_eq.symm

end EntityType
end EntityQuery
