import EntityQuery.Proofs.Types.Standard
import EntityQuery.Proofs.Builder.Acceptance
/-!
# `Proofs.Builder.Comparison` — comparing either way round

The test of a comparison looks at its operands unevenly: only the left one is asked whether it is a byte
string. What it decides is even-handed all the same, because nothing but byte strings promotes to byte
strings or from them. So a comparison may be turned round, its operator with it, and whatever can be ordered
can also be tested for equality.

## Contents
* `Comparison.mirror` — the operator that says the same with the operands exchanged.
* `Shape.IsScalar`, `binary_iff_of_either` — scalars, and byte strings among them.
* `Comparison.Admits` — the operands that can be compared, without preferring one; `admits_mirror_iff`,
  `Admits.of_equality`.
* `admits_iff_appliesTo`, `Builder.compare_isOk_iff` — the test decides it.
* `Builder.compare_decided` — what the builder answers, and how the answers hang together.
-/

namespace EntityQuery

/-! ## The mirrored operator -/

namespace Comparison

/-- The operator for the operands exchanged: less than becomes greater than, and the other way round; what
    asks for equality stays. -/
def mirror : Comparison → Comparison
  | equals => equals
  | notEquals => notEquals
  | lessThan => greaterThan
  | lessThanOrEquals => greaterThanOrEquals
  | greaterThan => lessThan
  | greaterThanOrEquals => lessThanOrEquals

@[simp] theorem mirror_mirror (operator : Comparison) : operator.mirror.mirror = operator := by
  cases operator <;> rfl

/-- Turned round, an operator asks for equality as before. -/
theorem asksEquality_mirror_iff {operator : Comparison} : operator.mirror.AsksEquality ↔ operator.AsksEquality := by
  unfold AsksEquality
  cases operator <;> decide

end Comparison

/-! ## Scalars -/

namespace Shape

/-- The scalars are the primitives and the enumerations. -/
inductive IsScalar : EdmShape → Prop
  | primitive (k : Primitive) : IsScalar (.primitive k)
  | enumeration (e : EnumType) : IsScalar (.enumeration e)

variable {s t : EdmShape}

/-- Scalars are what a primitive kind carries. -/
theorem isScalar_iff : s.IsScalar ↔ ∃ k, s.carrier? = some k := by
  constructor
  · intro h
    cases h with
    | primitive k => exact ⟨k, rfl⟩
    | enumeration e => exact ⟨e.underlying, rfl⟩
  · rintro ⟨k, hk⟩
    cases s with
    | primitive k => exact .primitive k
    | enumeration e => exact .enumeration e
    | _ => exact absurd hk nofun

/-- Byte strings are no numbers, so they stand only for byte strings. -/
theorem binary_of_promotesTo (h : Shape.promotesTo (.primitive .binary) t = true) :
    t = .primitive .binary := by
  cases promotesTo_iff.mp h with
  | primitive kinds =>
    rcases Primitive.promotesTo_iff.mp kinds with rfl | ⟨numeric, _⟩
    · rfl
    · exact absurd numeric (by decide)

/-- Byte strings are at the bottom of the widths, so only byte strings stand for them. -/
theorem binary_of_promotesTo_binary (h : s.promotesTo (.primitive .binary) = true) :
    s = .primitive .binary := by
  cases promotesTo_iff.mp h with
  | primitive kinds =>
    rcases Primitive.promotesTo_iff.mp kinds with rfl | ⟨_, wider⟩
    · rfl
    · exact absurd wider (Nat.not_lt_zero _)

/-- **Byte strings keep to themselves.** Of two types one of which stands for the other, both are byte
    strings or none is. -/
theorem binary_iff_of_either (either : s.promotesTo t = true ∨ t.promotesTo s = true) :
    s = .primitive .binary ↔ t = .primitive .binary := by
  constructor
  · rintro rfl
    rcases either with h | h
    · exact binary_of_promotesTo h
    · exact binary_of_promotesTo_binary h
  · rintro rfl
    rcases either with h | h
    · exact binary_of_promotesTo_binary h
    · exact binary_of_promotesTo h

end Shape

/-! ## Operands that can be compared -/

/-- **What an operator admits.** Two scalars one of which may stand for the other, both to be other than
    byte strings unless they are tested for equality; two entities or two references, tested for equality,
    of one entity type or one deriving from the other. -/
inductive Comparison.Admits (operator : Comparison) : EdmShape → EdmShape → Prop
  | scalars {l r : EdmShape} (left : l.IsScalar) (right : r.IsScalar)
      (either : l.promotesTo r = true ∨ r.promotesTo l = true)
      (bytes : operator.AsksEquality ∨ (l ≠ .primitive .binary ∧ r ≠ .primitive .binary)) :
      Admits operator l r
  | entities {a b : Entity} (equality : operator.AsksEquality) (either : a.IsA b ∨ b.IsA a) :
      Admits operator (.entity a) (.entity b)
  | references {a b : Entity} (equality : operator.AsksEquality) (either : a.IsA b ∨ b.IsA a) :
      Admits operator (.reference a) (.reference b)

namespace Comparison

variable {operator other : Comparison} {l r : EdmShape}

/-- It is enough to ask the left operand for byte strings. -/
theorem admits_iff_appliesTo : operator.Admits l r ↔ operator.AppliesTo l r := by
  constructor
  · intro admits
    cases admits with
    | scalars left right either bytes =>
      obtain ⟨k, hk⟩ := Shape.isScalar_iff.mp left
      obtain ⟨j, hj⟩ := Shape.isScalar_iff.mp right
      exact .scalars hk hj either (bytes.imp_right And.left)
    | entities equality either => exact .entities equality either
    | references equality either => exact .references equality either
  · intro applies
    cases applies with
    | @scalars _ _ k j hk hj either bytes =>
      refine .scalars (Shape.isScalar_iff.mpr ⟨k, hk⟩) (Shape.isScalar_iff.mpr ⟨j, hj⟩) either ?_
      rcases bytes with equality | left
      · exact .inl equality
      · have right : r ≠ .primitive .binary := by rwa [Ne, ← Shape.binary_iff_of_either either]
        exact .inr ⟨left, right⟩
    | entities equality either => exact .entities equality either
    | references equality either => exact .references equality either

/-- Exchanged operands are admitted by the mirrored operator. -/
theorem Admits.mirror (admits : operator.Admits l r) : operator.mirror.Admits r l := by
  have same : operator.mirror.AsksEquality ↔ operator.AsksEquality := asksEquality_mirror_iff
  cases admits with
  | scalars left right either bytes =>
    refine .scalars right left either.symm ?_
    rw [same]
    exact bytes.imp_right And.symm
  | entities equality either => exact .entities (same.mpr equality) either.symm
  | references equality either => exact .references (same.mpr equality) either.symm

/-- **Comparisons can be turned round.** -/
theorem admits_mirror_iff : operator.mirror.Admits r l ↔ operator.Admits l r := by
  constructor
  · intro admits
    rw [← mirror_mirror operator]
    exact admits.mirror
  · exact Admits.mirror

/-- **What can be compared can be tested for equality.** -/
theorem Admits.of_equality (admits : operator.Admits l r) (equality : other.AsksEquality) :
    other.Admits l r := by
  cases admits with
  | scalars left right either _ => exact .scalars left right either (.inl equality)
  | entities _ either => exact .entities equality either
  | references _ either => exact .references equality either

end Comparison

/-! ## What the builder accepts -/

namespace Builder

variable {alive : Handle → Bool} {here : Handle} {operator : Comparison} {left right e : Expr}

/-- A comparison is made of what its operator admits. -/
theorem compare_eq_ok_iff_admits :
    Builder.compare ⟨.standard, alive, here⟩ operator left right = .ok e ↔
      operator.Admits left.type.shape right.type.shape ∧
        e = ⟨Expr.booleanAt here, .comparison operator left right⟩ := by
  rw [Comparison.admits_iff_appliesTo, ← Expr.standard_comparable_iff, and_assoc]
  exact compare_eq_ok_iff

/-- A comparison is refused for one reason only. -/
theorem compare_eq_error_iff {cause : Rejection} :
    Builder.compare ⟨.standard, alive, here⟩ operator left right = .error cause ↔
      ¬ operator.Admits left.type.shape right.type.shape ∧
        cause = .incompatibleTypes .right left.type.text right.type.text := by
  rw [Comparison.admits_iff_appliesTo, ← Expr.standard_comparable_iff, ← Bool.and_eq_true,
    Builder.compare, Expr.mkComparison]
  by_cases accepted : (Expr.comparable .standard operator left.type.shape right.type.shape &&
      Expr.eitherPromotes .standard left.type.shape right.type.shape) = true
  · simp [accepted]
  · simp [accepted, eq_comm]

theorem compare_isOk_iff :
    (∃ e, Builder.compare ⟨.standard, alive, here⟩ operator left right = .ok e) ↔
      operator.Admits left.type.shape right.type.shape := by
  simp only [compare_eq_ok_iff_admits, exists_and_left, exists_eq, and_true]

/-- **Comparisons, decided.** Whatever is alive and wherever the comparison is made: it is the Boolean
    comparison of its operands when the operator admits their types and is refused for their incompatible
    types otherwise; turned round it is accepted as before; and operands that any operator accepts are
    accepted by those that ask for equality. -/
theorem compare_decided (alive : Handle → Bool) (here : Handle) (operator : Comparison) (left right : Expr) :
    (∀ answer, Builder.compare ⟨.standard, alive, here⟩ operator left right = answer ↔
      (operator.Admits left.type.shape right.type.shape ∧
          answer = .ok ⟨Expr.booleanAt here, .comparison operator left right⟩) ∨
        (¬ operator.Admits left.type.shape right.type.shape ∧
          answer = .error (.incompatibleTypes .right left.type.text right.type.text))) ∧
    ((∃ e, Builder.compare ⟨.standard, alive, here⟩ operator left right = .ok e) ↔
      ∃ e, Builder.compare ⟨.standard, alive, here⟩ operator.mirror right left = .ok e) ∧
    ∀ other : Comparison, other = .equals ∨ other = .notEquals →
      (∃ e, Builder.compare ⟨.standard, alive, here⟩ operator left right = .ok e) →
        ∃ e, Builder.compare ⟨.standard, alive, here⟩ other left right = .ok e := by
  refine ⟨?_, ?_, ?_⟩
  · intro answer
    cases answer with
    | ok e => simp [compare_eq_ok_iff_admits]
    | error cause => simp [compare_eq_error_iff]
  · rw [compare_isOk_iff, compare_isOk_iff, Comparison.admits_mirror_iff]
  · intro other equality accepted
    rw [compare_isOk_iff] at accepted ⊢
    exact accepted.of_equality equality

/-- A short number may be less than a decimal; so the decimal may be greater, and the two may be equal. -/
theorem compare_decided_shortAndDecimal :
    let short : Expr := ⟨⟨.root 0, .primitive .int16⟩, .variableReference "s"⟩
    let decimal : Expr := ⟨⟨.root 1, .primitive .decimal⟩, .variableReference "d"⟩
    let b : Builder := ⟨.standard, fun _ => true, .root 2⟩
    b.compare .lessThan short decimal = .ok ⟨Expr.booleanAt (.root 2), .comparison .lessThan short decimal⟩ ∧
      (∃ e, b.compare .greaterThan decimal short = .ok e) ∧ ∃ e, b.compare .equals short decimal = .ok e := by
  intro short decimal b
  obtain ⟨decided, mirrored, equality⟩ := compare_decided b.alive b.here .lessThan short decimal
  have admits : Comparison.lessThan.Admits short.type.shape decimal.type.shape := by
    refine .scalars (.primitive _) (.primitive _) (.inl rfl) (.inr ⟨?_, ?_⟩) <;> simp [short, decimal]
  have made := (decided _).mpr (.inl ⟨admits, rfl⟩)
  exact ⟨made, mirrored.mp ⟨_, made⟩, equality .equals (.inl rfl) ⟨_, made⟩⟩

end Builder
end EntityQuery
