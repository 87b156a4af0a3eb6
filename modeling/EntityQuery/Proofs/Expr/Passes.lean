import Mathlib.Algebra.GroupWithZero.Nat
import EntityQuery.Expr.Preorder
/-!
# `Proofs.Expr.Passes` — what passes collect

A pass folds a step over the nodes in pre-order (`visit_eq_foldl_preorder`). So what a pass has collected in
the end is said of the list of nodes, and nothing about the walk is left.

A pass may go over several expressions in turn; it then folds its step over the nodes of all of them
(`visitAll_eq_foldl_nodes`), so what it collects is put together from what it collects of each.

## Contents
* `parameterReferences_eq`, `parameterReferences_eq_append` — the references to parameters, in pre-order.
* `count_histogram`, `histogram_congr` — how many nodes of each kind.
* `Histogram.Tidy`, `Histogram.Counts` — a histogram has one line for each kind that occurs, and no other.
* `passes_over_preorder` — both passes over one expression, and over several.
-/

namespace EntityQuery
namespace Expr

/-! ## References to parameters -/

/-- Noting parameters puts those of the nodes before what was noted, the latest first. -/
theorem foldl_noteParameter (noted : List Parameter) (nodes : List Expr) :
    nodes.foldl noteParameter noted = (nodes.filterMap parameter?).reverse ++ noted := by
  induction nodes generalizing noted with
  | nil => rfl
  | cons n ns ih =>
    rw [List.foldl_cons, ih, noteParameter]
    cases h : n.parameter? with
    | none => rw [List.filterMap_cons_none h]
    | some p => rw [List.filterMap_cons_some h, List.reverse_cons, List.append_assoc, List.singleton_append]

/-- **References in pre-order.** The parameters that an expression refers to are those of its nodes in
    pre-order, as often as they occur. -/
theorem parameterReferences_eq (e : Expr) : e.parameterReferences = e.preorder.filterMap parameter? := by
  rw [parameterReferences, visit_eq_foldl_preorder, foldl_noteParameter, List.append_nil, List.reverse_reverse]

/-- The parameter that a node refers to is of the type of the node. -/
theorem type_of_parameter? {e : Expr} {p : Parameter} (h : e.parameter? = some p) : p.type = e.type := by
  unfold parameter? at h
  split at h
  · rw [← Option.some.inj h]
  · exact absurd h nofun

/-- The references of an expression are its own, then those of its children in order. -/
theorem parameterReferences_eq_append (e : Expr) :
    e.parameterReferences = e.parameter?.toList ++ e.children.flatMap parameterReferences := by
  have below (c : Expr) : c.parameterReferences = c.preorder.filterMap parameter? := parameterReferences_eq c
  rw [parameterReferences_eq, preorder_eq, funext below, List.filterMap_cons, List.filterMap_flatMap]
  cases e.parameter? <;> rfl

/-! ## Histograms -/

/-- Counting kinds adds, for each kind, the number of nodes of the kind. -/
theorem count_foldl_countKind (h : Histogram) (nodes : List Expr) (k : Kind) :
    (nodes.foldl countKind h).count k = h.count k + (nodes.map kind).count k := by
  induction nodes generalizing h with
  | nil => rfl
  | cons n ns ih =>
    rw [List.foldl_cons, ih, countKind, Histogram.count_record, List.map_cons, List.count_cons]
    by_cases same : k = n.kind
    · rw [if_pos same, if_pos (by simpa using same.symm)]
      omega
    · rw [if_neg same, if_neg (by simpa using Ne.symm same)]
      omega

/-- **Kinds counted.** A histogram gives each kind the number of nodes of the kind. -/
theorem count_histogram (e : Expr) (k : Kind) : e.histogram.count k = (e.preorder.map kind).count k := by
  rw [histogram, visit_eq_foldl_preorder, count_foldl_countKind, Histogram.count_empty, Nat.zero_add]

/-- Counting kinds goes by the list of kinds alone. -/
theorem foldl_countKind (h : Histogram) (nodes : List Expr) :
    nodes.foldl countKind h = (nodes.map kind).foldl Histogram.record h := by
  rw [List.foldl_map]
  rfl

/-- Expressions of the same kinds in pre-order have one histogram. -/
theorem histogram_congr {e f : Expr} (same : e.preorder.map kind = f.preorder.map kind) :
    e.histogram = f.histogram := by
  rw [histogram, histogram, visit_eq_foldl_preorder, visit_eq_foldl_preorder, foldl_countKind,
    foldl_countKind, same]

end Expr

/-! ## Lines of a histogram -/

/-- A kind that has a line after one more stroke had one before, or is the kind of the stroke. -/
theorem mem_kinds_addStroke {kind k : Kind} {tally : List (Kind × Nat)}
    (h : k ∈ (addStroke kind tally).map Prod.fst) : k = kind ∨ k ∈ tally.map Prod.fst := by
  induction tally with
  | nil =>
    have only : k = kind := by simpa [addStroke] using h
    exact .inl only
  | cons entry rest ih =>
    obtain ⟨k', n⟩ := entry
    by_cases same : k' = kind
    · -- the stroke goes on this line, so the kinds are those from before
      have kept : k ∈ ((k', n) :: rest).map Prod.fst := by simpa [addStroke, same] using h
      exact .inr kept
    · have split : k = k' ∨ k ∈ (addStroke kind rest).map Prod.fst := by
        simpa [addStroke, same] using h
      rcases split with rfl | h
      · exact .inr List.mem_cons_self
      · rcases ih h with new | old
        · exact .inl new
        · exact .inr (List.mem_cons_of_mem _ old)

/-- One more stroke gives no kind a second line. -/
theorem nodup_kinds_addStroke (kind : Kind) {tally : List (Kind × Nat)} (h : (tally.map Prod.fst).Nodup) :
    ((addStroke kind tally).map Prod.fst).Nodup := by
  induction tally with
  | nil => simp [addStroke]
  | cons entry rest ih =>
    obtain ⟨k', n⟩ := entry
    rw [List.map_cons, List.nodup_cons] at h
    obtain ⟨new, distinct⟩ := h
    by_cases same : k' = kind
    · have kept : (addStroke kind ((k', n) :: rest)).map Prod.fst = k' :: rest.map Prod.fst := by
        simp [addStroke, same]
      rw [kept, List.nodup_cons]
      exact ⟨new, distinct⟩
    · have later : addStroke kind ((k', n) :: rest) = (k', n) :: addStroke kind rest := by
        simp [addStroke, same]
      rw [later, List.map_cons, List.nodup_cons]
      refine ⟨?_, ih distinct⟩
      intro again
      rcases mem_kinds_addStroke again with stroke | old
      · exact same stroke
      · exact new old

/-- After one more stroke no line is without strokes if none was before. -/
theorem pos_of_mem_addStroke {kind : Kind} {tally : List (Kind × Nat)} (h : ∀ entry ∈ tally, 0 < entry.2) :
    ∀ entry ∈ addStroke kind tally, 0 < entry.2 := by
  induction tally with
  | nil =>
    intro entry hentry
    obtain rfl : entry = (kind, 1) := by simpa [addStroke] using hentry
    exact Nat.one_pos
  | cons first rest ih =>
    obtain ⟨k', n⟩ := first
    obtain ⟨here, below⟩ := List.forall_mem_cons.mp h
    intro entry hentry
    by_cases same : k' = kind
    · have split : entry = (k', n + 1) ∨ entry ∈ rest := by simpa [addStroke, same] using hentry
      rcases split with rfl | hentry
      · exact Nat.succ_pos n
      · exact below entry hentry
    · have split : entry = (k', n) ∨ entry ∈ addStroke kind rest := by simpa [addStroke, same] using hentry
      rcases split with rfl | hentry
      · exact here
      · exact ih below entry hentry

/-- A kind with strokes has the line that says how many. -/
theorem mem_of_strokes_pos {k : Kind} {tally : List (Kind × Nat)} (h : 0 < strokes k tally) :
    (k, strokes k tally) ∈ tally := by
  induction tally with
  | nil => exact absurd h (Nat.lt_irrefl 0)
  | cons entry rest ih =>
    obtain ⟨k', n⟩ := entry
    by_cases same : k' = k
    · subst same
      simp [strokes]
    · have later : strokes k ((k', n) :: rest) = strokes k rest := by simp [strokes, same]
      rw [later] at h ⊢
      exact List.mem_cons_of_mem _ (ih h)

/-- When no kind has two lines, a line says how many strokes its kind has. -/
theorem strokes_eq_of_mem {k : Kind} {n : Nat} {tally : List (Kind × Nat)} (distinct : (tally.map Prod.fst).Nodup)
    (h : (k, n) ∈ tally) : strokes k tally = n := by
  induction tally with
  | nil => exact absurd h List.not_mem_nil
  | cons entry rest ih =>
    obtain ⟨k', m⟩ := entry
    rw [List.map_cons, List.nodup_cons] at distinct
    obtain ⟨new, distinct⟩ := distinct
    rcases List.mem_cons.mp h with here | below
    · obtain ⟨rfl, rfl⟩ := Prod.mk.inj here
      simp [strokes]
    · -- the kind of a line further down is not the kind of this one
      have other : k' ≠ k := by
        rintro rfl
        exact new (List.mem_map.mpr ⟨(k', n), below, rfl⟩)
      have later : strokes k ((k', m) :: rest) = strokes k rest := by simp [strokes, other]
      rw [later]
      exact ih distinct below

namespace Histogram

/-- **Tidy.** No kind has two lines, and every line has a stroke. -/
structure Tidy (h : Histogram) : Prop where
  distinct : (h.tally.map Prod.fst).Nodup
  pos : ∀ entry ∈ h.tally, 0 < entry.2

theorem tidy_empty : empty.Tidy := ⟨List.nodup_nil, fun _ h => absurd h List.not_mem_nil⟩

/-- Recording keeps a histogram tidy. -/
theorem Tidy.record {h : Histogram} (tidy : h.Tidy) (kind : Kind) : (h.record kind).Tidy :=
  ⟨nodup_kinds_addStroke kind tidy.distinct, pos_of_mem_addStroke tidy.pos⟩

/-- **Lines are counts.** The lines of a tidy histogram are those of the kinds met, with their counts. -/
theorem Tidy.mem_tally_iff {h : Histogram} (tidy : h.Tidy) {k : Kind} {n : Nat} :
    (k, n) ∈ h.tally ↔ n = h.count k ∧ 0 < n := by
  constructor
  · intro line
    exact ⟨(strokes_eq_of_mem tidy.distinct line).symm, tidy.pos _ line⟩
  · rintro ⟨rfl, met⟩
    exact mem_of_strokes_pos met

theorem mem_entries_iff {h : Histogram} {k : Kind} {n : Nat} :
    (k, n) ∈ h.entries ↔ n = h.count k ∧ 0 < n := by
  rw [entries, List.mem_filter, List.mem_map, decide_eq_true_eq]
  refine and_congr_left ?_
  intro _
  constructor
  · rintro ⟨k', _, same⟩
    obtain ⟨rfl, rfl⟩ := Prod.mk.inj same
    rfl
  · rintro rfl
    exact ⟨k, k.mem_all, rfl⟩

/-- **Counts some nodes.** The histogram has a line for each kind that occurs among the nodes, with the number
    of nodes of the kind; it has no line for a kind that does not occur, and it lists the lines it has. Its
    total is the number of nodes. -/
structure Counts (h : Histogram) (nodes : List Expr) : Prop where
  distinct : (h.tally.map Prod.fst).Nodup
  lines : ∀ k n, (k, n) ∈ h.tally ↔ n = (nodes.map Expr.kind).count k ∧ 0 < n
  listed : ∀ entry, entry ∈ h.entries ↔ entry ∈ h.tally
  count : ∀ k, h.count k = (nodes.map Expr.kind).count k
  total : h.total = nodes.length

end Histogram

namespace Expr

/-- Counting kinds keeps a histogram tidy. -/
theorem tidy_foldl_countKind {h : Histogram} (tidy : h.Tidy) (nodes : List Expr) :
    (nodes.foldl countKind h).Tidy := by
  induction nodes generalizing h with
  | nil => exact tidy
  | cons n ns ih => exact ih (tidy.record n.kind)

/-- Counting kinds adds one to the total for each node. -/
theorem total_foldl_countKind (h : Histogram) (nodes : List Expr) :
    (nodes.foldl countKind h).total = h.total + nodes.length := by
  induction nodes generalizing h with
  | nil => rfl
  | cons n ns ih =>
    rw [List.foldl_cons, ih, countKind, Histogram.total_record, List.length_cons]
    omega

/-- **Counting from nothing** counts the nodes. -/
theorem counts_foldl_countKind (nodes : List Expr) :
    (nodes.foldl countKind Histogram.empty).Counts nodes := by
  have tidy := tidy_foldl_countKind Histogram.tidy_empty nodes
  have count (k : Kind) : (nodes.foldl countKind Histogram.empty).count k = (nodes.map kind).count k := by
    rw [count_foldl_countKind, Histogram.count_empty, Nat.zero_add]
  constructor
  · exact tidy.distinct
  · intro k n
    rw [tidy.mem_tally_iff, count]
  · rintro ⟨k, n⟩
    rw [Histogram.mem_entries_iff, tidy.mem_tally_iff]
  · exact count
  · rw [total_foldl_countKind, Histogram.total_empty, Nat.zero_add]

/-! ## Several expressions in turn -/

/-- **A pass over several expressions** takes the steps of their nodes in pre-order, one expression after the
    other. -/
theorem visitAll_eq_foldl_nodes {σ : Type} (step : σ → Expr → σ) (s : σ) (es : List Expr) :
    visitAll step s es = (es.flatMap preorder).foldl step s := by
  rw [visitAll_eq_foldl, List.foldl_flatMap]
  refine foldl_eq_of_forall_mem ?_
  intro e _ s
  exact visit_eq_foldl_preorder step s e

/-- The references that one pass collects of several expressions are those of each in turn. -/
theorem parameterReferencesOf_eq (es : List Expr) :
    parameterReferencesOf es = es.flatMap parameterReferences := by
  have each (e : Expr) : e.preorder.filterMap parameter? = e.parameterReferences :=
    (parameterReferences_eq e).symm
  rw [parameterReferencesOf, visitAll_eq_foldl_nodes, foldl_noteParameter, List.append_nil,
    List.reverse_reverse, List.filterMap_flatMap, funext each]

/-- The kinds of the nodes of several expressions are counted one expression after the other. -/
theorem count_kinds_flatMap (es : List Expr) (k : Kind) :
    ((es.flatMap preorder).map kind).count k = (es.map fun e => e.histogram.count k).sum := by
  induction es with
  | nil => rfl
  | cons e es ih =>
    rw [List.flatMap_cons, List.map_append, List.count_append, ih, List.map_cons, List.sum_cons,
      count_histogram]

end Expr

/-! ## References as nodes -/

/-- The node that refers to a parameter. -/
def Parameter.toExpr (p : Parameter) : Expr := ⟨p.type, .parameterReference p.name⟩

namespace Expr

/-- The references among some nodes, as nodes, are the nodes that are references. -/
theorem map_toExpr_filterMap_parameter? (nodes : List Expr) :
    (nodes.filterMap parameter?).map Parameter.toExpr =
      nodes.filter fun n => n.kind = .parameterReference := by
  induction nodes with
  | nil => rfl
  | cons n ns ih =>
    obtain ⟨type, node⟩ := n
    cases node with
    | parameterReference name =>
      have reference : parameter? ⟨type, .parameterReference name⟩ = some ⟨name, type⟩ := rfl
      rw [List.filterMap_cons_some reference, List.map_cons, ih, List.filter_cons_of_pos rfl]
      rfl
    | _ =>
      rw [List.filterMap_cons_none rfl, ih, List.filter_cons_of_neg]
      simp [kind, Node.kind]

/-- **Passes go over the nodes in pre-order, each once.** Any pass over one expression folds its step over the
    nodes. So the parameters it refers to are those of the nodes that are references, in order and as often
    as they occur, and its histogram counts the nodes. One pass over several expressions collects the
    references of each in turn, and counts the nodes of all, so that each count is the sum of those for the
    expressions alone. -/
theorem passes_over_preorder :
    (∀ (σ : Type) (step : σ → Expr → σ) (s : σ) (e : Expr), e.visit step s = e.preorder.foldl step s) ∧
    (∀ e : Expr,
      e.parameterReferences.map Parameter.toExpr = (e.preorder.filter fun n => n.kind = .parameterReference) ∧
        e.histogram.Counts e.preorder) ∧
    ∀ es : List Expr,
      parameterReferencesOf es = es.flatMap parameterReferences ∧
        (histogramOf es).Counts (es.flatMap preorder) ∧
        (∀ k, (histogramOf es).count k = (es.map fun e => e.histogram.count k).sum) ∧
        (histogramOf es).total = (es.map fun e => e.histogram.total).sum := by
  have single (e : Expr) : e.histogram.Counts e.preorder := by
    rw [histogram, visit_eq_foldl_preorder]
    exact counts_foldl_countKind e.preorder
  refine ⟨fun σ step s e => visit_eq_foldl_preorder step s e, fun e => ⟨?_, single e⟩, ?_⟩
  · rw [parameterReferences_eq]
    exact map_toExpr_filterMap_parameter? e.preorder
  · intro es
    have all : (histogramOf es).Counts (es.flatMap preorder) := by
      rw [histogramOf, visitAll_eq_foldl_nodes]
      exact counts_foldl_countKind (es.flatMap preorder)
    refine ⟨parameterReferencesOf_eq es, all, ?_, ?_⟩
    · intro k
      rw [all.count, count_kinds_flatMap]
    · have totals (e : Expr) : e.histogram.total = e.preorder.length := (single e).total
      rw [all.total, List.length_flatMap, funext totals]

end Expr
end EntityQuery
