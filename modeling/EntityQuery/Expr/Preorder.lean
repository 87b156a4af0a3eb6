import EntityQuery.Expr.Outline
import EntityQuery.Expr.Visit
/-!
# `Expr.Preorder` — the nodes of an expression, and its layout, read off its children

Said once, from the list of children alone: the nodes of an expression in pre-order, and the lines of its
outline with their depths. Neither walks anything with a state; passes and printers are measured against
them.

## Contents
* `Expr.preorder` — every node once, before its children.
* `visit_eq_foldl_preorder` — a pass is a fold over the nodes in pre-order.
* `Expr.layout` — the lines of the outline from a depth on.
-/

namespace EntityQuery
namespace Expr

/-- The nodes of an expression: itself, then the nodes of its children in order. -/
def preorder (e : Expr) : List Expr :=
  e :: e.children.attach.flatMap fun c => c.1.preorder
termination_by sizeOf e
decreasing_by exact sizeOf_lt_of_mem_children c.2

theorem preorder_eq (e : Expr) : e.preorder = e :: e.children.flatMap preorder := by
  rw [preorder]
  conv => rhs; rw [← List.attach_map_subtype_val e.children, List.flatMap_map]

/-- An expression is the first of its nodes. -/
theorem self_mem_preorder (e : Expr) : e ∈ e.preorder := by
  rw [preorder_eq]
  exact List.mem_cons_self

/-- The nodes of an expression are itself and the nodes of its children. -/
theorem mem_preorder_iff {e n : Expr} : n ∈ e.preorder ↔ n = e ∨ ∃ c ∈ e.children, n ∈ c.preorder := by
  rw [preorder_eq, List.mem_cons, List.mem_flatMap]

/-- The nodes of a node are nodes of the whole. -/
theorem preorder_trans {e n m : Expr} (h : n ∈ e.preorder) (k : m ∈ n.preorder) : m ∈ e.preorder := by
  induction e using inductionOnChildren with
  | step e ih =>
    -- `n` is `e` itself, or a node of one of its children
    rcases mem_preorder_iff.mp h with rfl | ⟨c, hc, hn⟩
    · exact k
    · exact mem_preorder_iff.mpr (.inr ⟨c, hc, ih c hc hn⟩)

/-- Folds whose steps agree at every element of a list agree. -/
theorem foldl_eq_of_forall_mem {α σ : Type} {f g : σ → α → σ} {xs : List α} {s : σ}
    (h : ∀ x ∈ xs, ∀ s, f s x = g s x) : xs.foldl f s = xs.foldl g s := by
  induction xs generalizing s with
  | nil => rfl
  | cons x xs ih =>
    rw [List.foldl_cons, List.foldl_cons, h x List.mem_cons_self]
    exact ih fun y hy => h y (List.mem_cons_of_mem x hy)

/-- **A pass is a fold.** Walking an expression takes the steps of its nodes in pre-order, each node once. -/
theorem visit_eq_foldl_preorder {σ : Type} (step : σ → Expr → σ) (s : σ) (e : Expr) :
    e.visit step s = e.preorder.foldl step s := by
  induction e using inductionOnChildren generalizing s with
  | step e ih =>
    rw [visit_eq, preorder_eq, List.foldl_cons, List.foldl_flatMap]
    exact foldl_eq_of_forall_mem fun c hc s => ih c hc s

end Expr

/-! ## Layout -/

namespace Node

variable {ε : Type}

/-- The children that stand right below a node's line: all but the references of related entities. -/
def direct : Node ε → List ε
  | newInstance elements _ => elements
  | n => n.children

theorem children_eq_direct_append (n : Node ε) : n.children = n.direct ++ n.related.map (·.reference) := by
  cases n <;> simp [children, direct, related]

end Node

namespace Expr

/-- A direct child is a child. -/
theorem mem_children_of_mem_direct {e c : Expr} (h : c ∈ e.node.direct) : c ∈ e.children := by
  rw [children, Node.children_eq_direct_append]
  exact List.mem_append_left _ h

/-- The reference of a related entity is a child of the expression that carries it. -/
theorem mem_children_of_mem_related {e : Expr} {r : Related} (h : r ∈ e.node.related) :
    r.reference ∈ e.children := by
  rw [children, Node.children_eq_direct_append]
  exact List.mem_append_right _ (List.mem_map_of_mem h)

/-- The lines of the outline at a depth: the node's own, those of its direct children one level deeper, then
    for each related entity its line one level deeper and its reference two levels deeper. -/
def layout (depth : Nat) (e : Expr) : List String :=
  outlineHead depth e.type e.node ::
    ((e.node.direct.attach.flatMap fun c => c.1.layout (depth + 1)) ++
      (e.node.related.attach.flatMap fun r =>
        relatedHead (depth + 1) r.1.source r.1.target :: r.1.reference.layout (depth + 2)))
termination_by sizeOf e
decreasing_by
  · exact sizeOf_lt_of_mem_children (mem_children_of_mem_direct c.2)
  · exact sizeOf_lt_of_mem_children (mem_children_of_mem_related r.2)

theorem layout_eq (depth : Nat) (e : Expr) :
    e.layout depth = outlineHead depth e.type e.node ::
      (e.node.direct.flatMap (layout (depth + 1)) ++
        e.node.related.flatMap fun r =>
          relatedHead (depth + 1) r.source r.target :: r.reference.layout (depth + 2)) := by
  rw [layout]
  conv => rhs; rw [← List.attach_map_subtype_val e.node.direct, List.flatMap_map]
  conv => rhs; rw [← List.attach_map_subtype_val e.node.related, List.flatMap_map]

end Expr
end EntityQuery
