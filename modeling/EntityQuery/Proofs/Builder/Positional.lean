import EntityQuery.Proofs.Builder.Acceptance
import EntityQuery.Proofs.Precedence
/-!
# `Proofs.Builder.Positional` — operands by position, judged in order

Operands and the types declared for them are paired as far as both lists reach, which alone would let operands
get lost. None does: the number of operands is judged first, and then each operand at its place, from the left.
Elements of a collection have no places. Each is judged by the one type of elements, from the left, however many
there are.

## Contents
* `Condition.counted`, `standsAt`, `byPosition` — the conditions in order; `forall_byPosition_iff`.
* `Condition.firstFault_map_standsAt_iff` — the leftmost misfit.
* `judgedBy_requireEach`, `judgedBy_requirePositions`, `judgedBy_forM_requireAssignable` — the checks follow them.
-/

namespace EntityQuery

/-! ## The conditions -/

namespace Condition

/-- There are as many operands as declared places. -/
def counted (blamed : Argument) (declared given : Nat) : Condition where
  holds := declared = given
  reported cause := cause = .argumentCountMismatch blamed declared given

/-- The operand may stand where the type is declared. -/
def standsAt (blamed : Argument) (declared : TypeUse) (operand : Expr) : Condition where
  holds := operand.type.shape.promotesTo declared.shape = true
  reported cause := cause = .valueTypeMismatch blamed declared.text operand.type.text

/-- **The conditions on operands by position:** their number, then each at its place, from the left. -/
def byPosition (blamed : Argument) (declared : List TypeUse) (operands : List Expr) : List Condition :=
  .counted blamed declared.length operands.length :: List.zipWith (standsAt blamed) declared operands

/-- The conditions at the places hold when the operands fit, as far as both lists reach. -/
theorem forall_zipWith_standsAt_iff {blamed : Argument} {declared : List TypeUse} {operands : List Expr} :
    (∀ k ∈ List.zipWith (standsAt blamed) declared operands, k.holds) ↔
      ∀ p ∈ declared.zip operands, p.2.type.shape.promotesTo p.1.shape = true := by
  rw [← List.map_uncurry_zip_eq_zipWith, List.forall_mem_map]
  exact Iff.rfl

/-- **Fitting operands.** All the conditions hold when there is one operand for each place, and it may stand
    there. -/
theorem forall_byPosition_iff {blamed : Argument} {declared : List TypeUse} {operands : List Expr} :
    (∀ k ∈ byPosition blamed declared operands, k.holds) ↔ Fits .standard declared operands := by
  rw [byPosition, List.forall_mem_cons, forall_zipWith_standsAt_iff, Fits, List.forall₂_iff_zip]
  simp only [Prod.forall]
  exact Iff.rfl

/-- A fault of operands by position is their number, or one of them at its place. -/
theorem cause_of_firstFault_byPosition {blamed : Argument} {declared : List TypeUse} {operands : List Expr}
    {cause : Rejection} (fault : FirstFault cause (byPosition blamed declared operands)) :
    cause = .argumentCountMismatch blamed declared.length operands.length ∨
      ∃ t e, (t, e) ∈ declared.zip operands ∧ cause = .valueTypeMismatch blamed t.text e.type.text := by
  obtain ⟨k, hk, _, reported⟩ := fault.exists_mem
  rcases List.mem_cons.mp hk with rfl | hk
  · exact .inl reported
  · rw [← List.map_uncurry_zip_eq_zipWith] at hk
    obtain ⟨⟨t, e⟩, hp, rfl⟩ := List.mem_map.mp hk
    exact .inr ⟨t, e, hp, reported⟩

/-- **The leftmost misfit.** Of operands that may each stand in one kind of place, the first that may not is
    reported. -/
theorem firstFault_map_standsAt_iff {blamed : Argument} {declared : TypeUse} {operands : List Expr}
    {cause : Rejection} :
    FirstFault cause (operands.map (standsAt blamed declared)) ↔
      ∃ before e after, operands = before ++ e :: after ∧
        (∀ x ∈ before, x.type.shape.promotesTo declared.shape = true) ∧
        ¬ e.type.shape.promotesTo declared.shape = true ∧
        cause = .valueTypeMismatch blamed declared.text e.type.text := by
  induction operands with
  | nil =>
    refine iff_of_false nofun ?_
    rintro ⟨before, e, after, same, _⟩
    exact absurd same (by simp)
  | cons x xs ih =>
    rw [List.map_cons, firstFault_cons_iff, ih]
    constructor
    · rintro (⟨misfit, reported⟩ | ⟨fits, before, e, after, rfl, all, misfit, reported⟩)
      · exact ⟨[], x, xs, rfl, List.forall_mem_nil _, misfit, reported⟩
      · exact ⟨x :: before, e, after, rfl, List.forall_mem_cons.mpr ⟨fits, all⟩, misfit, reported⟩
    · rintro ⟨before, e, after, same, all, misfit, reported⟩
      cases before with
      | nil =>
        obtain ⟨rfl, rfl⟩ := List.cons.inj same
        exact .inl ⟨misfit, reported⟩
      | cons y ys =>
        obtain ⟨rfl, rfl⟩ := List.cons.inj same
        obtain ⟨fits, all⟩ := List.forall_mem_cons.mp all
        exact .inr ⟨fits, ys, e, after, rfl, all, misfit, reported⟩

end Condition

/-! ## The check -/

section Check

variable {blamed : Argument}

/-- One operand is judged by its place. -/
theorem judgedBy_requireAssignable (declared : TypeUse) (operand : Expr) :
    JudgedBy [.standsAt blamed declared operand] (requireAssignable .standard blamed declared operand)
      fun _ => (Condition.standsAt blamed declared operand).holds :=
  judgedBy_require Iff.rfl fun _ => Iff.rfl

/-- Operands are judged from the left, as far as both lists reach. -/
theorem judgedBy_requireEach (declared : List TypeUse) (operands : List Expr) :
    JudgedBy (List.zipWith (.standsAt blamed) declared operands)
      (requireEach .standard blamed declared operands) fun _ => True := by
  induction declared generalizing operands with
  | nil => exact judgedBy_ok (List.forall_mem_nil _) trivial
  | cons t ts ih =>
    cases operands with
    | nil => exact judgedBy_ok (List.forall_mem_nil _) trivial
    | cons e es =>
      rw [requireEach, List.zipWith_cons_cons]
      exact (judgedBy_requireAssignable t e).bind fun _ _ => ih es

/-- The number of operands is judged by the number of places. -/
theorem judgedBy_requireCount (declared given : Nat) :
    JudgedBy [.counted blamed declared given] (requireCount blamed declared given) fun _ => declared = given :=
  judgedBy_require beq_iff_eq fun _ => Iff.rfl

/-- **The positional check follows the conditions,** and what passes it fits. -/
theorem judgedBy_requirePositions (declared : List TypeUse) (operands : List Expr) :
    JudgedBy (Condition.byPosition blamed declared operands) (requirePositions .standard blamed declared operands)
      fun _ => Fits .standard declared operands := by
  have judged : JudgedBy (Condition.byPosition blamed declared operands)
      (requirePositions .standard blamed declared operands) fun _ => True :=
    (judgedBy_requireCount declared.length operands.length).bind fun _ _ => judgedBy_requireEach declared operands
  refine ⟨judged.accepted, ?_, judged.rejected⟩
  intro _ passed
  exact Condition.forall_byPosition_iff.mp (judged.accepted.mp ⟨_, passed⟩)

/-- Elements of a collection are judged from the left, each by the type of elements. -/
theorem judgedBy_forM_requireAssignable (element : TypeUse) (operands : List Expr) :
    JudgedBy (operands.map (.standsAt blamed element))
      (operands.forM (requireAssignable .standard blamed element)) fun _ => True := by
  induction operands with
  | nil => exact judgedBy_ok (List.forall_mem_nil _) trivial
  | cons e es ih => exact (judgedBy_requireAssignable element e).bind fun _ _ => ih

end Check

end EntityQuery
