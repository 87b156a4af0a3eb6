import EntityQuery.Model.Basic
/-!
# `Model.Equality` — when two uses are of one type

Two uses are of **one type** when their shapes agree: named types by full name, rows column by column in
name and type, collections by their elements. Identity plays no part in it, so the question is about
shapes alone, and two uses of one type are written alike.

## Contents
* `TypeUse.equals`, `Shape.equals`, `columnsEqual`.
* `equals_eq`, `columnsEqual_cons` — equality of uses is equality of shapes, equality of rows goes column by
  column.
-/

namespace EntityQuery

mutual

/-- Whether two uses are of one type. -/
def TypeUse.equals : TypeUse → TypeUse → Bool
  | ⟨_, s⟩, ⟨_, t⟩ => s.equals t
termination_by structural s => s

/-- Whether two shapes are of one type: the same kind of shape with equal names or equal parts. -/
def Shape.equals : Shape TypeUse → Shape TypeUse → Bool
  | .primitive a, .primitive b => a == b
  | .enumeration a, .enumeration b => a.name.same b.name
  | .entity a, .entity b => a.name.same b.name
  | .complex a, .complex b => a.name.same b.name
  | .row a, .row b => columnsEqual a b
  | .relationship a, .relationship b => a.name.same b.name
  | .collection a, .collection b => a.equals b
  | .reference a, .reference b => a.name.same b.name
  | _, _ => false
termination_by structural s => s

/-- Whether two rows have the same columns: as many, and alike in name and type at each place. -/
def columnsEqual : List (Property TypeUse) → List (Property TypeUse) → Bool
  | [], [] => true
  | ⟨m, a⟩ :: as, ⟨n, b⟩ :: bs => m == n && a.equals b && columnsEqual as bs
  | _, _ => false
termination_by structural s => s

end

/-- Equality asks about shapes only. -/
theorem TypeUse.equals_eq (s t : TypeUse) : s.equals t = s.shape.equals t.shape := by
  obtain ⟨_, s⟩ := s
  obtain ⟨_, t⟩ := t
  rw [TypeUse.equals]

theorem columnsEqual_cons (p q : Property TypeUse) (ps qs : List (Property TypeUse)) :
    columnsEqual (p :: ps) (q :: qs) =
      (p.name == q.name && p.type.equals q.type && columnsEqual ps qs) := by
  rw [columnsEqual]

end EntityQuery
