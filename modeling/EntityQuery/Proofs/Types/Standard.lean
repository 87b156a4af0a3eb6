import EntityQuery.Expr.Make
import EntityQuery.Proofs.Types.Promotion
/-!
# `Proofs.Types.Standard` — what the standard rules answer

Constructions ask type rules and never look into a shape. Here the answers of the standard rules are spelled
out as facts about shapes, so that what a construction accepts can be said without mentioning rules.

## Contents
* `standard_isBoolean_iff`, `standard_isCollection_iff` and the like — the simple questions.
* `standard_covers_entity_iff`, `standard_covers_reference_iff` — being of an entity type or a subtype.
* `RelationshipEnd.accepts_eq_covers_iff`, `accepts_standard_iff` — the same question of an end, where equality is
  asked from the other side.
* `Comparison.AsksEquality`, `Comparison.AppliesTo`, `standard_comparable_iff` — operands that can be compared.
-/

namespace EntityQuery

namespace TypeRules

variable {s : EdmShape}

/-! ## Simple questions -/

theorem standard_isBoolean_iff : standard.isBoolean s = true ↔ s = .primitive .boolean := by
  show s.isPrimitive .boolean = true ↔ _
  cases s <;> simp [Shape.isPrimitive]

theorem standard_isCollection_iff : standard.isCollection s = true ↔ ∃ t, s = .collection t := by
  cases s <;> simp [standard]

theorem standard_isEntity_iff : standard.isEntity s = true ↔ ∃ e, s = .entity e := by
  cases s <;> simp [standard]

theorem standard_isReference_iff : standard.isReference s = true ↔ ∃ e, s = .reference e := by
  cases s <;> simp [standard]

theorem standard_isScalar_of_carrier? {k : Primitive} (h : s.carrier? = some k) :
    standard.isScalar s = true := by
  rw [standard_isScalar_iff]
  show s.carrier?.isSome = true
  rw [h]
  rfl

/-! ## Entities and subtypes -/

theorem standard_covers_entity_iff {e : Entity} :
    standard.covers (.entity e) s = true ↔ ∃ found, s = .entity found ∧ found.IsA e := by
  show (s.equals (.entity e) || s.isSubtypeOf (.entity e)) = true ↔ _
  rw [Bool.or_eq_true, Shape.equals_iff]
  constructor
  · rintro (same | sub)
    · cases same with
      | @entity found _ name => exact ⟨found, rfl, .inl name⟩
    · cases s with
      | entity found => exact ⟨found, rfl, .inr sub⟩
      | _ => exact absurd sub Bool.false_ne_true
  · rintro ⟨found, rfl, name | derives⟩
    · exact .inl (.entity name)
    · exact .inr derives

theorem standard_covers_reference_iff {e : Entity} :
    standard.covers (.reference e) s = true ↔ ∃ found, s = .reference found ∧ found.IsA e := by
  show (s.equals (.reference e) || s.isSubtypeOf (.reference e)) = true ↔ _
  rw [Bool.or_eq_true, Shape.equals_iff]
  constructor
  · rintro (same | sub)
    · cases same with
      | @reference found _ name => exact ⟨found, rfl, .inl name⟩
    · cases s with
      | reference found => exact ⟨found, rfl, .inr sub⟩
      | _ => exact absurd sub Bool.false_ne_true
  · rintro ⟨found, rfl, name | derives⟩
    · exact .inl (.reference name)
    · exact .inr derives

end TypeRules

namespace RelationshipEnd

variable {rules : TypeRules} {e : RelationshipEnd} {found : Entity}

/-- **Asking from the other side.** An end accepts what its type covers, unless the two ways to ask for equality
    are answered differently and no subtype makes up for it. -/
theorem accepts_eq_covers_iff :
    e.accepts rules found = rules.covers (.entity e.entity) (.entity found) ↔
      rules.equals (.entity e.entity) (.entity found) = rules.equals (.entity found) (.entity e.entity) ∨
        rules.isSubtypeOf (.entity found) (.entity e.entity) = true := by
  unfold accepts TypeRules.covers
  cases rules.isSubtypeOf (.entity found) (.entity e.entity) <;> simp

/-- Under the standard rules equality is symmetric, so it does not matter from which side it is asked. -/
theorem accepts_standard_iff : e.accepts .standard found = true ↔ found.IsA e.entity := by
  have symmetric : TypeRules.standard.equals (.entity e.entity) (.entity found) =
      TypeRules.standard.equals (.entity found) (.entity e.entity) :=
    Bool.eq_iff_iff.mpr ⟨Shape.equals_symm, Shape.equals_symm⟩
  rw [accepts_eq_covers_iff.mpr (.inl symmetric), TypeRules.standard_covers_entity_iff]
  constructor
  · rintro ⟨_, same, isA⟩
    cases same
    exact isA
  · intro isA
    exact ⟨found, rfl, isA⟩

end RelationshipEnd

/-! ## Comparisons -/

/-- **Asking for equality,** one way or the other. The remaining operators ask for an order. -/
def Comparison.AsksEquality (operator : Comparison) : Prop := operator = .equals ∨ operator = .notEquals

/-- The test for it. -/
theorem Comparison.isEquality_iff {operator : Comparison} :
    operator.isEquality = true ↔ operator.AsksEquality := by
  unfold AsksEquality
  cases operator <;> decide

/-- **Operands that can be compared.** Scalars one of which may stand for the other, byte strings only for
    equality; entities or references one of whose types is the other or derives from it, for equality. -/
inductive Comparison.AppliesTo (operator : Comparison) : EdmShape → EdmShape → Prop
  | scalars {l r : EdmShape} {k j : Primitive} (left : l.carrier? = some k) (right : r.carrier? = some j)
      (either : l.promotesTo r = true ∨ r.promotesTo l = true)
      (bytes : operator.AsksEquality ∨ l ≠ .primitive .binary) : AppliesTo operator l r
  | entities {a b : Entity} (equality : operator.AsksEquality) (either : a.IsA b ∨ b.IsA a) :
      AppliesTo operator (.entity a) (.entity b)
  | references {a b : Entity} (equality : operator.AsksEquality) (either : a.IsA b ∨ b.IsA a) :
      AppliesTo operator (.reference a) (.reference b)

/-- Entities promote as they are entities of each other's types. -/
theorem Shape.promotesTo_entity_iff {a b : Entity} :
    Shape.promotesTo (.entity a) (.entity b) = true ↔ a.IsA b := by
  rw [promotesTo_iff]
  constructor
  · intro h
    cases h with
    | entity h => exact h
  · exact .entity

theorem Shape.promotesTo_reference_iff {a b : Entity} :
    Shape.promotesTo (.reference a) (.reference b) = true ↔ a.IsA b := by
  rw [promotesTo_iff]
  constructor
  · intro h
    cases h with
    | reference h => exact h
  · exact .reference

namespace Expr

variable {operator : Comparison} {l r : EdmShape}

theorem standard_eitherPromotes_iff :
    eitherPromotes .standard l r = true ↔ l.promotesTo r = true ∨ r.promotesTo l = true := by
  rw [eitherPromotes, Bool.or_eq_true]
  exact Iff.rfl

theorem standard_isPrimitive_binary_iff :
    TypeRules.standard.isPrimitive l .binary = true ↔ l = .primitive .binary := by
  show l.isPrimitive .binary = true ↔ _
  cases l <;> simp [Shape.isPrimitive]

/-- For scalars only byte strings are singled out. -/
theorem standard_comparable_scalars_iff (hl : TypeRules.standard.isScalar l = true)
    (hr : TypeRules.standard.isScalar r = true) :
    comparable .standard operator l r = true ↔
      operator.AsksEquality ∨ l ≠ .primitive .binary := by
  rw [comparable, hl, hr, Bool.and_self, if_pos rfl, Bool.or_eq_true, Bool.not_eq_true',
    ← Bool.not_eq_true, standard_isPrimitive_binary_iff, Comparison.isEquality_iff]
  exact or_comm

/-- What is not a pair of scalars must be two entities or two references, compared for equality. -/
theorem standard_comparable_others_iff
    (h : ¬ (TypeRules.standard.isScalar l = true ∧ TypeRules.standard.isScalar r = true)) :
    comparable .standard operator l r = true ↔
      operator.AsksEquality ∧
        (((∃ a, l = .entity a) ∧ ∃ b, r = .entity b) ∨
          ((∃ a, l = .reference a) ∧ ∃ b, r = .reference b)) := by
  rw [comparable, if_neg (by rw [Bool.and_eq_true]; exact h), Bool.and_eq_true, Bool.or_eq_true,
    Bool.and_eq_true, Bool.and_eq_true, Comparison.isEquality_iff]
  simp only [TypeRules.standard_isEntity_iff, TypeRules.standard_isReference_iff]

/-- **The test decides what can be compared.** -/
theorem standard_comparable_iff :
    (comparable .standard operator l r = true ∧ eitherPromotes .standard l r = true) ↔
      operator.AppliesTo l r := by
  rw [standard_eitherPromotes_iff]
  constructor
  · rintro ⟨comparable, either⟩
    by_cases scalars : TypeRules.standard.isScalar l = true ∧ TypeRules.standard.isScalar r = true
    · obtain ⟨hl, hr⟩ := scalars
      obtain ⟨k, hk⟩ := Option.isSome_iff_exists.mp (TypeRules.standard_isScalar_iff.mp hl)
      obtain ⟨j, hj⟩ := Option.isSome_iff_exists.mp (TypeRules.standard_isScalar_iff.mp hr)
      exact .scalars hk hj either ((standard_comparable_scalars_iff hl hr).mp comparable)
    · obtain ⟨equality, pair⟩ := (standard_comparable_others_iff scalars).mp comparable
      rcases pair with ⟨⟨a, rfl⟩, b, rfl⟩ | ⟨⟨a, rfl⟩, b, rfl⟩
      · simp only [Shape.promotesTo_entity_iff] at either
        exact .entities equality either
      · simp only [Shape.promotesTo_reference_iff] at either
        exact .references equality either
  · intro applies
    cases applies with
    | scalars hk hj either bytes =>
      have hl := TypeRules.standard_isScalar_of_carrier? hk
      have hr := TypeRules.standard_isScalar_of_carrier? hj
      exact ⟨(standard_comparable_scalars_iff hl hr).mpr bytes, either⟩
    | @entities a b equality either =>
      refine ⟨(standard_comparable_others_iff (by simp [TypeRules.standard])).mpr ⟨equality, ?_⟩, ?_⟩
      · exact .inl ⟨⟨a, rfl⟩, b, rfl⟩
      · simpa only [Shape.promotesTo_entity_iff] using either
    | @references a b equality either =>
      refine ⟨(standard_comparable_others_iff (by simp [TypeRules.standard])).mpr ⟨equality, ?_⟩, ?_⟩
      · exact .inr ⟨⟨a, rfl⟩, b, rfl⟩
      · simpa only [Shape.promotesTo_reference_iff] using either

end Expr
end EntityQuery
