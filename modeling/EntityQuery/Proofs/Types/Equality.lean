import Mathlib.Data.List.Forall2
import EntityQuery.Model.Equality
/-!
# `Proofs.Types.Equality` — being of one type is an equivalence

`Shape.equals` is a recursive test. `Shape.Same` says what it tests, one rule for each kind of shape, and
`equals_iff` ties the two together, so that every later fact about equality is a short case analysis on a
rule instead of a walk through all pairs of kinds.

## Contents
* `forall₂_trans_of_mem`, `forall₂_flip_of_mem`, `forall₂_of_both`, `map_eq_of_forall₂`,
  `exists_mem_of_forall₂` — comparing lists place by place, with what is known of their members.
* `Shape.Same`, `equals_iff`.
* `equals_refl`, `equals_symm`, `equals_trans` — the equivalence.
* `text_eq_of_equals` — shapes of one type are written alike.
-/

namespace EntityQuery

/-! ## Lists compared place by place -/

variable {α β γ : Type}

/-- Comparisons of lists compose when the comparisons of their members do. -/
theorem forall₂_trans_of_mem {R : α → β → Prop} {S : β → γ → Prop} {T : α → γ → Prop} {as : List α}
    {bs : List β} {cs : List γ} (step : ∀ a ∈ as, ∀ b ∈ bs, ∀ c ∈ cs, R a b → S b c → T a c)
    (h : List.Forall₂ R as bs) (k : List.Forall₂ S bs cs) : List.Forall₂ T as cs := by
  induction h generalizing cs with
  | nil => cases k; exact .nil
  | cons hab _ ih =>
    cases k with
    | cons hbc hrest =>
      refine .cons (step _ List.mem_cons_self _ List.mem_cons_self _ List.mem_cons_self hab hbc) ?_
      refine ih ?_ hrest
      intro a ha b hb c hc
      exact step a (List.mem_cons_of_mem _ ha) b (List.mem_cons_of_mem _ hb) c (List.mem_cons_of_mem _ hc)

/-- A comparison of lists turns around when the comparison of their members does. -/
theorem forall₂_flip_of_mem {R : α → β → Prop} {S : β → α → Prop} {as : List α} {bs : List β}
    (step : ∀ a ∈ as, ∀ b ∈ bs, R a b → S b a) (h : List.Forall₂ R as bs) : List.Forall₂ S bs as := by
  induction h with
  | nil => exact .nil
  | cons hab _ ih =>
    refine .cons (step _ List.mem_cons_self _ List.mem_cons_self hab) (ih fun a ha b hb => ?_)
    exact step a (List.mem_cons_of_mem _ ha) b (List.mem_cons_of_mem _ hb)

/-- Comparisons of lists in both directions meet when the comparisons of their members do. -/
theorem forall₂_of_both {R : α → β → Prop} {S : β → α → Prop} {T : α → β → Prop} {as : List α}
    {bs : List β} (step : ∀ a ∈ as, ∀ b ∈ bs, R a b → S b a → T a b) (h : List.Forall₂ R as bs)
    (k : List.Forall₂ S bs as) : List.Forall₂ T as bs := by
  induction h with
  | nil => exact .nil
  | cons hab _ ih =>
    cases k with
    | cons hba hrest =>
      refine .cons (step _ List.mem_cons_self _ List.mem_cons_self hab hba) (ih ?_ hrest)
      intro a ha b hb
      exact step a (List.mem_cons_of_mem _ ha) b (List.mem_cons_of_mem _ hb)

/-- Lists that agree place by place in what is read off their members have equal images. -/
theorem map_eq_of_forall₂ {R : α → β → Prop} {f : α → γ} {g : β → γ} {as : List α} {bs : List β}
    (step : ∀ a ∈ as, ∀ b ∈ bs, R a b → f a = g b) (h : List.Forall₂ R as bs) : as.map f = bs.map g := by
  induction h with
  | nil => rfl
  | cons hab _ ih =>
    rw [List.map_cons, List.map_cons, step _ List.mem_cons_self _ List.mem_cons_self hab]
    rw [ih fun a ha b hb => step a (List.mem_cons_of_mem _ ha) b (List.mem_cons_of_mem _ hb)]

/-- Every member of the first of two lists compared place by place has its counterpart in the second. -/
theorem exists_mem_of_forall₂ {R : α → β → Prop} {as : List α} {bs : List β} (h : List.Forall₂ R as bs) :
    ∀ a ∈ as, ∃ b ∈ bs, R a b := by
  induction h with
  | nil => exact fun a ha => absurd ha List.not_mem_nil
  | @cons a b _ _ hab _ ih =>
    intro c hc
    rcases List.mem_cons.mp hc with rfl | hc
    · exact ⟨b, List.mem_cons_self, hab⟩
    · obtain ⟨d, hd, hcd⟩ := ih c hc
      exact ⟨d, List.mem_cons_of_mem _ hd, hcd⟩

/-! ## What equality tests -/

/-- Two columns of one name and of one type. -/
def SameColumn (p q : Property TypeUse) : Prop :=
  p.name = q.name ∧ p.type.shape.equals q.type.shape = true

/-- **One type.** Named types go by their full names, rows column by column, collections by their
    elements; no two different kinds of shape are one type. -/
inductive Shape.Same : EdmShape → EdmShape → Prop
  | primitive (k : Primitive) : Same (.primitive k) (.primitive k)
  | enumeration {a b : EnumType} : a.fullName = b.fullName → Same (.enumeration a) (.enumeration b)
  | entity {a b : Entity} : a.fullName = b.fullName → Same (.entity a) (.entity b)
  | complex {a b : ComplexType TypeUse} : a.name.text = b.name.text → Same (.complex a) (.complex b)
  | row {as bs : List (Property TypeUse)} : List.Forall₂ SameColumn as bs → Same (.row as) (.row bs)
  | relationship {a b : Relationship} : a.fullName = b.fullName → Same (.relationship a) (.relationship b)
  | collection {a b : TypeUse} : a.shape.equals b.shape = true → Same (.collection a) (.collection b)
  | reference {a b : Entity} : a.fullName = b.fullName → Same (.reference a) (.reference b)

/-- Rows are equal column by column. -/
theorem columnsEqual_iff {as bs : List (Property TypeUse)} :
    columnsEqual as bs = true ↔ List.Forall₂ SameColumn as bs := by
  induction as generalizing bs with
  | nil => cases bs <;> simp [columnsEqual]
  | cons p ps ih =>
    cases bs with
    | nil => simp [columnsEqual]
    | cons q qs =>
      rw [columnsEqual_cons, Bool.and_eq_true, Bool.and_eq_true, ih, List.forall₂_cons,
        TypeUse.equals_eq, beq_iff_eq]
      exact Iff.rfl

namespace Shape

/-- **The test decides the rules.** -/
theorem equals_iff {s t : EdmShape} : s.equals t = true ↔ Same s t := by
  constructor
  · intro h
    -- different kinds of shape fail the test, so only the eight diagonal cases remain
    cases s <;> cases t <;> simp only [Shape.equals, Bool.false_eq_true] at h
    case primitive.primitive a b =>
      rw [beq_iff_eq] at h
      exact h ▸ .primitive a
    case enumeration.enumeration => exact .enumeration (QualifiedName.same_iff.mp h)
    case entity.entity => exact .entity (QualifiedName.same_iff.mp h)
    case complex.complex => exact .complex (QualifiedName.same_iff.mp h)
    case row.row => exact .row (columnsEqual_iff.mp h)
    case relationship.relationship => exact .relationship (QualifiedName.same_iff.mp h)
    case collection.collection a b =>
      rw [TypeUse.equals_eq] at h
      exact .collection h
    case reference.reference => exact .reference (QualifiedName.same_iff.mp h)
  · intro h
    cases h with
    | primitive k => exact beq_self_eq_true k
    | enumeration h => exact QualifiedName.same_iff.mpr h
    | entity h => exact QualifiedName.same_iff.mpr h
    | complex h => exact QualifiedName.same_iff.mpr h
    | row h => exact columnsEqual_iff.mpr h
    | relationship h => exact QualifiedName.same_iff.mpr h
    | collection h =>
      rw [Shape.equals, TypeUse.equals_eq]
      exact h
    | reference h => exact QualifiedName.same_iff.mpr h

/-! ## The equivalence -/

/-- A shape is of one type with itself. -/
@[simp] theorem equals_refl (s : EdmShape) : s.equals s = true := by
  induction s using inductionOnParts with
  | step s ih =>
    apply equals_iff.mpr
    cases s with
    | primitive k => exact .primitive k
    | enumeration e => exact .enumeration rfl
    | entity e => exact .entity rfl
    | complex c => exact .complex rfl
    | row columns =>
      exact .row (List.forall₂_same.mpr fun p hp => ⟨rfl, ih p.type (List.mem_map_of_mem hp)⟩)
    | relationship r => exact .relationship rfl
    | collection element => exact .collection (ih element (List.mem_singleton_self element))
    | reference e => exact .reference rfl

/-- Being of one type does not depend on the order. -/
theorem equals_symm {s t : EdmShape} (h : s.equals t = true) : t.equals s = true := by
  induction s using inductionOnParts generalizing t with
  | step s ih =>
    apply equals_iff.mpr
    cases equals_iff.mp h with
    | primitive k => exact .primitive k
    | enumeration e => exact .enumeration e.symm
    | entity e => exact .entity e.symm
    | complex e => exact .complex e.symm
    | row cols =>
      refine .row (forall₂_flip_of_mem ?_ cols)
      intro p hp q _ hpq
      exact ⟨hpq.1.symm, ih p.type (List.mem_map_of_mem hp) hpq.2⟩
    | relationship e => exact .relationship e.symm
    | collection e => exact .collection (ih _ (List.mem_singleton_self _) e)
    | reference e => exact .reference e.symm

/-- Being of one type goes through a third shape. -/
theorem equals_trans {s t u : EdmShape} (h : s.equals t = true) (k : t.equals u = true) :
    s.equals u = true := by
  induction s using inductionOnParts generalizing t u with
  | step s ih =>
    apply equals_iff.mpr
    -- the rule for `s` and `t` fixes the kind of `t`, and so the rule for `t` and `u`
    cases equals_iff.mp h with
    | primitive k' => exact equals_iff.mp k
    | enumeration e => cases equals_iff.mp k with | enumeration e' => exact .enumeration (e.trans e')
    | entity e => cases equals_iff.mp k with | entity e' => exact .entity (e.trans e')
    | complex e => cases equals_iff.mp k with | complex e' => exact .complex (e.trans e')
    | row cols =>
      cases equals_iff.mp k with
      | row cols' =>
        refine .row (forall₂_trans_of_mem ?_ cols cols')
        intro p hp q _ r _ hpq hqr
        exact ⟨hpq.1.trans hqr.1, ih p.type (List.mem_map_of_mem hp) hpq.2 hqr.2⟩
    | relationship e => cases equals_iff.mp k with | relationship e' => exact .relationship (e.trans e')
    | collection e =>
      cases equals_iff.mp k with
      | collection e' => exact .collection (ih _ (List.mem_singleton_self _) e e')
    | reference e => cases equals_iff.mp k with | reference e' => exact .reference (e.trans e')

/-- **One type, one text.** Shapes of one type are written alike. -/
theorem text_eq_of_equals {s t : EdmShape} (h : s.equals t = true) : s.text = t.text := by
  induction s using inductionOnParts generalizing t with
  | step s ih =>
    cases equals_iff.mp h with
    | primitive k => rfl
    | enumeration e => exact e
    | entity e => exact e
    | complex e => exact e
    | @row as bs cols =>
      have texts : columnTexts as = columnTexts bs := by
        rw [columnTexts_eq_map, columnTexts_eq_map]
        refine map_eq_of_forall₂ ?_ cols
        intro p hp q _ hpq
        rw [TypeUse.text_eq, TypeUse.text_eq, hpq.1, ih p.type (List.mem_map_of_mem hp) hpq.2]
      show "Row(" ++ ", ".intercalate (columnTexts as) ++ ")" = _
      rw [texts]
      rfl
    | relationship e => exact e
    | @collection a b e =>
      show "Collection(" ++ a.text ++ ")" = "Collection(" ++ b.text ++ ")"
      rw [TypeUse.text_eq, TypeUse.text_eq, ih a (List.mem_singleton_self a) e]
    | @reference a b e =>
      show "Ref(" ++ a.fullName ++ ")" = "Ref(" ++ b.fullName ++ ")"
      rw [e]

end Shape
end EntityQuery
