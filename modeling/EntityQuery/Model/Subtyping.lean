import EntityQuery.Model.Equality
/-!
# `Model.Subtyping` — strict subtypes, and where a type may stand for another

An entity is a **subtype** of the entities on its base chain, a reference follows its target, and a
collection its elements; nothing is a subtype of itself. A type is **promotable** to another when a value
of the first may stand where the second is expected: they are one type, or the first is a subtype, or a
primitive widens to a primitive, or two collections or two rows promote part by part.

## Contents
* `Shape.isSubtypeOf`, `Shape.promotesTo`, `columnsPromote`, each with `TypeUse` beside it.
* `promotesTo_of_equals`, `promotesTo_of_isSubtypeOf` — the two plain ways to be promotable.
* `Shape.promotesTo_eq` — which of the tests matters for which kinds of shape.
-/

namespace EntityQuery

mutual

/-- Whether the first use is of a strict subtype of the second's type. -/
def TypeUse.isSubtypeOf : TypeUse → TypeUse → Bool
  | ⟨_, s⟩, ⟨_, t⟩ => s.isSubtypeOf t
termination_by structural s => s

/-- Whether the first shape is a strict subtype of the second. -/
def Shape.isSubtypeOf : Shape TypeUse → Shape TypeUse → Bool
  | .entity a, .entity b => a.derivesFrom b
  | .reference a, .reference b => a.derivesFrom b
  | .collection a, .collection b => a.isSubtypeOf b
  | _, _ => false
termination_by structural s => s

end

mutual

/-- Whether a value of the first type may stand where the second is expected. -/
def TypeUse.promotesTo : TypeUse → TypeUse → Bool
  | ⟨_, s⟩, ⟨_, t⟩ => s.promotesTo t
termination_by structural s => s

/-- Whether a value of the first shape may stand where the second is expected: they are of one type, or the first
    is a subtype, or primitives by the table of promotions, collections and rows part by part. -/
def Shape.promotesTo (s t : Shape TypeUse) : Bool :=
  s.equals t || s.isSubtypeOf t ||
    match s, t with
    | .primitive a, .primitive b => a.promotesTo b
    | .collection a, .collection b => a.promotesTo b
    | .row a, .row b => columnsPromote a b
    | _, _ => false
termination_by structural s

/-- Whether the columns of one row promote to those of another: as many, and at each place of one name and
    of a promotable type. -/
def columnsPromote : List (Property TypeUse) → List (Property TypeUse) → Bool
  | [], [] => true
  | ⟨m, a⟩ :: as, ⟨n, b⟩ :: bs => m == n && a.promotesTo b && columnsPromote as bs
  | _, _ => false
termination_by structural s => s

end

theorem TypeUse.isSubtypeOf_eq (s t : TypeUse) : s.isSubtypeOf t = s.shape.isSubtypeOf t.shape := by
  obtain ⟨_, s⟩ := s
  obtain ⟨_, t⟩ := t
  rw [TypeUse.isSubtypeOf]

theorem TypeUse.promotesTo_eq (s t : TypeUse) : s.promotesTo t = s.shape.promotesTo t.shape := by
  obtain ⟨_, s⟩ := s
  obtain ⟨_, t⟩ := t
  rw [TypeUse.promotesTo]

theorem columnsPromote_cons (p q : Property TypeUse) (ps qs : List (Property TypeUse)) :
    columnsPromote (p :: ps) (q :: qs) =
      (p.name == q.name && p.type.promotesTo q.type && columnsPromote ps qs) := by
  rw [columnsPromote]

/-- **One type promotes to itself.** -/
theorem promotesTo_of_equals {s t : EdmShape} (h : s.equals t = true) : s.promotesTo t = true := by
  unfold Shape.promotesTo
  rw [h]
  rfl

/-- **A subtype promotes.** -/
theorem promotesTo_of_isSubtypeOf {s t : EdmShape} (h : s.isSubtypeOf t = true) :
    s.promotesTo t = true := by
  unfold Shape.promotesTo
  rw [h, Bool.or_true]
  rfl

/-- Columns of one type promote. -/
theorem columnsPromote_of_columnsEqual {as bs : List (Property TypeUse)} (h : columnsEqual as bs = true) :
    columnsPromote as bs = true := by
  induction as generalizing bs with
  | nil => cases bs <;> simp_all [columnsEqual, columnsPromote]
  | cons p ps ih =>
    cases bs with
    | nil => simp [columnsEqual] at h
    | cons q qs =>
      rw [columnsEqual_cons, Bool.and_eq_true, Bool.and_eq_true, TypeUse.equals_eq] at h
      obtain ⟨⟨name, type⟩, rest⟩ := h
      rw [columnsPromote_cons, TypeUse.promotesTo_eq, name, promotesTo_of_equals type, ih rest]
      rfl

/-- **The parts decide.** Primitives are of one type or promote by one table, and being of one type or a subtype
    goes part by part for collections and rows, as promotion does: for these three the last test is enough. For all
    other kinds it never passes. -/
theorem Shape.promotesTo_eq (s t : EdmShape) :
    s.promotesTo t =
      match s, t with
      | .primitive a, .primitive b => a.promotesTo b
      | .collection a, .collection b => a.promotesTo b
      | .row a, .row b => columnsPromote a b
      | s, t => s.equals t || s.isSubtypeOf t := by
  cases s <;> cases t <;> simp only [Shape.promotesTo, Shape.equals, Shape.isSubtypeOf, Bool.or_false]
  case primitive.primitive a b =>
    rw [Bool.or_eq_right_iff_imp, beq_iff_eq]
    rintro rfl
    exact a.promotesTo_self
  case collection.collection a b =>
    rw [TypeUse.equals_eq, TypeUse.isSubtypeOf_eq, TypeUse.promotesTo_eq, Bool.or_eq_right_iff_imp, Bool.or_eq_true]
    rintro (same | sub)
    · exact promotesTo_of_equals same
    · exact promotesTo_of_isSubtypeOf sub
  case row.row as bs =>
    rw [Bool.or_eq_right_iff_imp]
    exact columnsPromote_of_columnsEqual

end EntityQuery
