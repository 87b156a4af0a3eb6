import Mathlib.Data.List.Basic
import EntityQuery.Proofs.Expr.Layout
/-!
# `Proofs.Expr.Entries` — an outline, entry by entry

What an outline shows can be said without printing anything: a list of entries, each at a depth. An entry is
a node, or the two ends of a related entity. The entries of an expression are its own, those of its direct
children one level deeper, and then for each related entity its ends one level deeper and its reference two
levels deeper. The text of the outline is one line for each entry, and the nodes among the entries are those
that passes visit.

## Contents
* `OutlineEntry` with `label` and `line`, the text of one entry.
* `Expr.entries` — the entries of an expression from a depth on.
* `Expr.layout_eq_map_line` — the lines of the layout are those of the entries.
* `Expr.filterMap_node?_entries` — without the related entities, the entries are the nodes in pre-order.
* `Expr.print_by_entries` — what the printer prints, alone and among others.
-/

namespace EntityQuery

/-! ## Entries -/

/-- One entry of an outline, at a depth. -/
inductive OutlineEntry where
  | node (depth : Nat) (expr : Expr)
  /-- The ends of a related entity. Its reference has entries of its own. -/
  | related (depth : Nat) (source target : RelationshipEnd)

namespace OutlineEntry

/-- How deep the entry stands. -/
def depth : OutlineEntry → Nat
  | node d _ => d
  | related d _ _ => d

/-- The node of the entry, if it is one. -/
def node? : OutlineEntry → Option Expr
  | node _ e => some e
  | related _ _ _ => none

/-- What the entry says: a node its kind, its detail if it has one, and its type; a related entity the names
    of its ends. -/
def label : OutlineEntry → String
  | node _ e =>
    match e.node.detail? with
    | some detail => e.kind.name ++ "(" ++ detail ++ ")" ++ " : " ++ e.type.text
    | none => e.kind.name ++ " : " ++ e.type.text
  | related _ source target => "RelatedEntityRef(" ++ source.name ++ " -> " ++ target.name ++ ")"

/-- The line of the entry: two blanks for each level, then what it says. -/
def line (x : OutlineEntry) : String := String.join (List.replicate x.depth "  ") ++ x.label

end OutlineEntry

/-- The blanks before a line are two for each level. -/
theorem indentation_eq_join (depth : Nat) : indentation depth = String.join (List.replicate depth "  ") := by
  induction depth with
  | zero => rfl
  | succ d ih =>
    have deeper : List.replicate (2 * (d + 1)) ' ' = ' ' :: ' ' :: List.replicate (2 * d) ' ' := by
      rw [Nat.mul_succ, List.replicate_succ, List.replicate_succ]
    rw [List.replicate_succ, String.join_cons, ← ih, indentation, indentation, deeper]
    show String.ofList ([' ', ' '] ++ _) = _
    rw [String.ofList_append]

/-- The line of a node is that of its entry. -/
theorem outlineHead_eq_line (depth : Nat) (e : Expr) :
    outlineHead depth e.type e.node = (OutlineEntry.node depth e).line := by
  have same : e.kind = e.node.kind := rfl
  unfold outlineHead OutlineEntry.line OutlineEntry.label
  rw [indentation_eq_join]
  cases shown : e.node.detail? with
  | none => simp [OutlineEntry.depth, shown, same, String.append_assoc]
  | some detail => simp [OutlineEntry.depth, shown, same, String.append_assoc]

/-- The line of a related entity is that of its entry. -/
theorem relatedHead_eq_line (depth : Nat) (source target : RelationshipEnd) :
    relatedHead depth source target = (OutlineEntry.related depth source target).line := by
  unfold relatedHead OutlineEntry.line OutlineEntry.label
  rw [indentation_eq_join]
  simp [OutlineEntry.depth, String.append_assoc]

/-! ## The entries of an expression -/

namespace Expr

/-- **The entries of an expression** from a depth on. -/
def entries (depth : Nat) (e : Expr) : List OutlineEntry :=
  .node depth e ::
    ((e.node.direct.attach.flatMap fun c => c.1.entries (depth + 1)) ++
      e.node.related.attach.flatMap fun r =>
        .related (depth + 1) r.1.source r.1.target :: r.1.reference.entries (depth + 2))
termination_by sizeOf e
decreasing_by
  · exact sizeOf_lt_of_mem_children (mem_children_of_mem_direct c.2)
  · exact sizeOf_lt_of_mem_children (mem_children_of_mem_related r.2)

theorem entries_eq (depth : Nat) (e : Expr) :
    e.entries depth = .node depth e ::
      (e.node.direct.flatMap (entries (depth + 1)) ++
        e.node.related.flatMap fun r =>
          .related (depth + 1) r.source r.target :: r.reference.entries (depth + 2)) := by
  rw [entries]
  conv => rhs; rw [← List.attach_map_subtype_val e.node.direct, List.flatMap_map]
  conv => rhs; rw [← List.attach_map_subtype_val e.node.related, List.flatMap_map]

/-- **One line for each entry.** The lines of the layout are those of the entries. -/
theorem layout_eq_map_line (e : Expr) (depth : Nat) : e.layout depth = (e.entries depth).map OutlineEntry.line := by
  induction e using inductionOnChildren generalizing depth with
  | step e ih =>
    have direct : e.node.direct.flatMap (layout (depth + 1)) =
        e.node.direct.flatMap fun c => (c.entries (depth + 1)).map OutlineEntry.line := by
      apply List.flatMap_congr
      intro c hc
      exact ih c (mem_children_of_mem_direct hc) (depth + 1)
    have related : (e.node.related.flatMap fun r =>
          relatedHead (depth + 1) r.source r.target :: r.reference.layout (depth + 2)) =
        e.node.related.flatMap fun r =>
          (.related (depth + 1) r.source r.target :: r.reference.entries (depth + 2)).map OutlineEntry.line := by
      apply List.flatMap_congr
      intro r hr
      rw [List.map_cons, relatedHead_eq_line, ih r.reference (mem_children_of_mem_related hr)]
    rw [layout_eq, entries_eq, direct, related, outlineHead_eq_line, List.map_cons, List.map_append,
      List.map_flatMap, List.map_flatMap]

/-- **Without the related entities** the entries are the nodes in pre-order, whatever the depth. -/
theorem filterMap_node?_entries (e : Expr) (depth : Nat) :
    (e.entries depth).filterMap OutlineEntry.node? = e.preorder := by
  induction e using inductionOnChildren generalizing depth with
  | step e ih =>
    have direct : (e.node.direct.flatMap fun c => (c.entries (depth + 1)).filterMap OutlineEntry.node?) =
        e.node.direct.flatMap preorder := by
      apply List.flatMap_congr
      intro c hc
      exact ih c (mem_children_of_mem_direct hc) (depth + 1)
    have related : (e.node.related.flatMap fun r =>
          (.related (depth + 1) r.source r.target :: r.reference.entries (depth + 2)).filterMap
            OutlineEntry.node?) = (e.node.related.map (·.reference)).flatMap preorder := by
      rw [List.flatMap_map]
      apply List.flatMap_congr
      intro r hr
      -- the ends are no node, so only the reference is left
      rw [List.filterMap_cons_none rfl]
      exact ih r.reference (mem_children_of_mem_related hr) (depth + 2)
    have top : (OutlineEntry.node depth e).node? = some e := rfl
    rw [entries_eq, List.filterMap_cons_some top, List.filterMap_append, List.filterMap_flatMap,
      List.filterMap_flatMap, direct, related, preorder_eq, children, Node.children_eq_direct_append,
      List.flatMap_append]

/-- Several expressions are printed each as it would be alone. -/
theorem run_printAll (es : List Expr) (depth : Nat) :
    (printAll es).run depth = (es.map fun e => (e.print.run depth).1, depth) := by
  rw [printAll_eq_inTurn]
  apply run_inTurn
  intro e _
  rw [run_print]

/-- **What the printer prints.** From any depth, an expression is printed as the lines of its entries, each
    once and in order, and the printer comes back to the depth it started from. So several expressions
    printed in turn are each printed as they would be alone. And the nodes among the entries are those of
    the expression in pre-order: any pass takes its steps at them, and at nothing else. -/
theorem print_by_entries (depth : Nat) :
    (∀ e : Expr, e.print.run depth = ("\n".intercalate ((e.entries depth).map OutlineEntry.line), depth)) ∧
    (∀ es : List Expr, (printAll es).run depth = (es.map fun e => (e.print.run depth).1, depth)) ∧
    ∀ e : Expr, (e.entries depth).filterMap OutlineEntry.node? = e.preorder ∧
      ∀ (σ : Type) (step : σ → Expr → σ) (s : σ),
        e.visit step s = ((e.entries depth).filterMap OutlineEntry.node?).foldl step s := by
  refine ⟨?_, fun es => run_printAll es depth, ?_⟩
  · intro e
    rw [run_print, layout_eq_map_line]
    rfl
  · intro e
    refine ⟨filterMap_node?_entries e depth, ?_⟩
    intro σ step s
    rw [filterMap_node?_entries]
    exact visit_eq_foldl_preorder step s e

end Expr
end EntityQuery
