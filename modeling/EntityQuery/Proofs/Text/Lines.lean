import Mathlib.Algebra.GroupWithZero.Nat
import EntityQuery.Proofs.Expr.Layout
/-!
# `Proofs.Text.Lines` — the lines of a text

The lines of a text are what its newlines separate. So a text has one line more than it has newlines, and blocks of
lines that are joined by newlines are the lines of all blocks in a row.

## Contents
* `newlines`, `linesOf` — how many newlines a text has, and what they separate.
* `newlines_append`, `newlines_intercalate` — newlines of texts in a row.
* `length_linesOf`, `linesOf_eq_singleton` — how many lines there are.
* `linesOf_stacked` — the lines of joined blocks.
-/

namespace EntityQuery

/-- How many newlines a text has. -/
def newlines (text : String) : Nat := text.toList.count '\n'

/-- The lines of a text. -/
def linesOf (text : String) : List String := (text.toList.splitOn '\n').map String.ofList

variable {text separator : String}

/-! ## Newlines -/

@[simp] theorem newlines_append (s t : String) : newlines (s ++ t) = newlines s + newlines t := by
  rw [newlines, String.toList_append, List.count_append]
  rfl

theorem newlines_eq_zero_iff : newlines text = 0 ↔ ∀ c ∈ text.toList, c ≠ '\n' := by
  rw [newlines, List.count_eq_zero]
  exact ⟨fun free c hc same => free (same ▸ hc), fun free newline => free _ newline rfl⟩

/-- Texts joined by a separator without newlines have their newlines in all. -/
theorem newlines_intercalate (free : newlines separator = 0) (texts : List String) :
    newlines (separator.intercalate texts) = (texts.map newlines).sum := by
  induction texts with
  | nil => rfl
  | cons first rest ih =>
    by_cases last : rest = []
    · rw [last, String.intercalate_singleton, List.map_singleton, List.sum_singleton]
    · rw [String.intercalate_cons_of_ne_nil last, newlines_append, newlines_append, free, Nat.add_zero, ih,
        List.map_cons, List.sum_cons]

/-! ## Lines -/

/-- Cutting a list at an element gives one part more than the element occurs. -/
theorem length_splitOn {α : Type} [BEq α] (a : α) (xs : List α) : (xs.splitOn a).length = xs.count a + 1 := by
  induction xs with
  | nil => rfl
  | cons x xs ih =>
    rw [List.splitOn_cons_eq_if_modifyHead, List.count_cons]
    split
    · rw [List.length_cons, ih]
    · rw [List.length_modifyHead, ih]

/-- A text has one line more than it has newlines. -/
theorem length_linesOf (text : String) : (linesOf text).length = newlines text + 1 := by
  rw [linesOf, List.length_map, length_splitOn]
  rfl

/-- A text without newlines is its only line. -/
theorem linesOf_eq_singleton (free : newlines text = 0) : linesOf text = [text] := by
  rw [newlines, List.count_eq_zero] at free
  rw [linesOf, List.splitOn_eq_singleton free, List.map_singleton, String.ofList_toList]

/-- A newline between two texts ends the lines of the first and begins those of the second. -/
theorem linesOf_append_newline (s t : String) : linesOf (s ++ "\n" ++ t) = linesOf s ++ linesOf t := by
  have cut : (s ++ "\n" ++ t).toList = s.toList ++ '\n' :: t.toList := by
    rw [String.toList_append, String.toList_append, List.append_assoc]
    rfl
  rw [linesOf, cut, List.splitOn_append_cons_self, List.map_append]
  rfl

/-- **The lines of joined blocks** are the lines of all blocks in a row. -/
theorem linesOf_stacked {blocks : List String} (h : blocks ≠ []) :
    linesOf (stacked blocks) = blocks.flatMap linesOf := by
  induction blocks with
  | nil => exact absurd rfl h
  | cons first rest ih =>
    by_cases last : rest = []
    · rw [last, stacked, String.intercalate_singleton, List.flatMap_singleton]
    · rw [stacked_cons last, linesOf_append_newline, ih last, List.flatMap_cons]

end EntityQuery
