import EntityQuery.Expr.Basic
/-!
# `Expr.Visit` — passes over expressions

A pass meets every node of an expression once, a node before its children and the children in order, and
carries a state along. `Expr.visit` is that walk for any state; what a pass does is the step it takes at a
node. The state may already hold what earlier expressions left in it, so one pass can go over many
expressions in turn.

## Contents
* `Expr.visit` — the walk, by recursion on the expression.
* `Expr.parameterReferences`, `Expr.histogram`, `Expr.operations` — three passes.
-/

namespace EntityQuery

/-! ## The walk -/

mutual

/-- Takes `step` at every node of an expression, from the state `s`. -/
def Expr.visit {σ : Type} (step : σ → Expr → σ) (s : σ) : Expr → σ
  | ⟨type, node⟩ => node.visit step (step s ⟨type, node⟩)
termination_by structural e => e

/-- Goes on from a node to its children. -/
def Node.visit {σ : Type} (step : σ → Expr → σ) (s : σ) : Node Expr → σ
  | .constant _ => s
  | .null => s
  | .variableReference _ => s
  | .parameterReference _ => s
  | .property _ object => object.visit step s
  | .function _ arguments => visitAll step s arguments
  | .lambda ⟨_, body⟩ arguments => body.visit step (visitAll step s arguments)
  | .navigation _ _ _ source => source.visit step s
  | .newInstance elements related => visitRelated step (visitAll step s elements) related
  | .ref _ keys => keys.visit step s
  | .deref reference => reference.visit step s
  | .scan _ => s
  | .comparison _ left right => right.visit step (left.visit step s)
  | .and left right => right.visit step (left.visit step s)
  | .or left right => right.visit step (left.visit step s)
  | .not argument => argument.visit step s
  | .isNull argument => argument.visit step s
  | .filter ⟨source, _⟩ predicate => predicate.visit step (source.visit step s)
  | .project ⟨source, _⟩ projection => projection.visit step (source.visit step s)
termination_by structural n => n

/-- Visits several expressions in turn. -/
def visitAll {σ : Type} (step : σ → Expr → σ) (s : σ) : List Expr → σ
  | [] => s
  | e :: es => visitAll step (e.visit step s) es
termination_by structural es => es

/-- Visits the references of several related entities in turn. -/
def visitRelated {σ : Type} (step : σ → Expr → σ) (s : σ) : List (RelatedOf Expr) → σ
  | [] => s
  | ⟨_, _, reference⟩ :: rs => visitRelated step (reference.visit step s) rs
termination_by structural rs => rs

end

theorem visitAll_eq_foldl {σ : Type} (step : σ → Expr → σ) (s : σ) (es : List Expr) :
    visitAll step s es = es.foldl (fun s e => e.visit step s) s := by
  induction es generalizing s with
  | nil => rfl
  | cons e es ih => rw [visitAll, ih]; rfl

theorem visitRelated_eq_foldl {σ : Type} (step : σ → Expr → σ) (s : σ) (rs : List Related) :
    visitRelated step s rs = (rs.map (·.reference)).foldl (fun s e => e.visit step s) s := by
  induction rs generalizing s with
  | nil => rfl
  | cons r rs ih => obtain ⟨a, b, e⟩ := r; rw [visitRelated, ih]; rfl

/-- **A walk takes its step, then walks the children in order.** -/
theorem Expr.visit_eq {σ : Type} (step : σ → Expr → σ) (s : σ) (e : Expr) :
    e.visit step s = e.children.foldl (fun s c => c.visit step s) (step s e) := by
  obtain ⟨type, node⟩ := e
  rw [Expr.visit]
  -- at every kind of node both sides walk the same list of children
  cases node <;>
    simp [Node.visit, Expr.children, Node.children, visitAll_eq_foldl, visitRelated_eq_foldl,
      List.foldl_append]

/-! ## Parameter references -/

/-- The parameter that a node refers to, if it is a reference to one. -/
def Expr.parameter? (e : Expr) : Option Parameter :=
  match e.node with
  | .parameterReference name => some ⟨name, e.type⟩
  | _ => none

namespace Expr

/-- Notes the parameter a node refers to, the latest first. -/
def noteParameter (noted : List Parameter) (e : Expr) : List Parameter :=
  match e.parameter? with
  | some p => p :: noted
  | none => noted

/-- The parameters that an expression refers to, in the order of the walk and as often as it does. -/
def parameterReferences (e : Expr) : List Parameter := (e.visit noteParameter []).reverse

/-- The parameters that several expressions refer to, noted by one pass over all of them. -/
def parameterReferencesOf (es : List Expr) : List Parameter := (visitAll noteParameter [] es).reverse

/-! ## Operations -/

/-- Notes the operation that handles a node, the latest first. -/
def noteOperation (noted : List Operation) (e : Expr) : List Operation := e.operation :: noted

/-- The operations that handle the nodes of an expression, in the order of the walk. -/
def operations (e : Expr) : List Operation := (e.visit noteOperation []).reverse

end Expr

/-! ## Histograms -/

/-- How many nodes of each kind were met: a tally with one line for each kind met so far. -/
structure Histogram where
  tally : List (Kind × Nat)

/-- One more stroke for a kind: on its line, or on a new line at the end. -/
def addStroke (kind : Kind) : List (Kind × Nat) → List (Kind × Nat)
  | [] => [(kind, 1)]
  | (k, n) :: rest => if k = kind then (k, n + 1) :: rest else (k, n) :: addStroke kind rest

/-- The count on a kind's line; zero when it has none. -/
def strokes (kind : Kind) : List (Kind × Nat) → Nat
  | [] => 0
  | (k, n) :: rest => if k = kind then n else strokes kind rest

/-- The counts of all lines together. -/
def allStrokes : List (Kind × Nat) → Nat
  | [] => 0
  | (_, n) :: rest => n + allStrokes rest

namespace Histogram

/-- Nothing met yet. -/
def empty : Histogram := ⟨[]⟩

/-- One more node of a kind. -/
def record (h : Histogram) (kind : Kind) : Histogram := ⟨addStroke kind h.tally⟩

/-- How many nodes of a kind were met. -/
def count (h : Histogram) (kind : Kind) : Nat := strokes kind h.tally

/-- The kinds that were met, each with its count, in the order of kinds. -/
def entries (h : Histogram) : List (Kind × Nat) :=
  (Kind.all.map fun k => (k, h.count k)).filter fun entry => 0 < entry.2

/-- How many nodes were met altogether. -/
def total (h : Histogram) : Nat := allStrokes h.tally

@[simp] theorem count_empty (k : Kind) : empty.count k = 0 := rfl

theorem count_record (h : Histogram) (kind k : Kind) :
    (h.record kind).count k = h.count k + if k = kind then 1 else 0 := by
  obtain ⟨tally⟩ := h
  simp only [record, count]
  induction tally with
  | nil =>
    by_cases e : k = kind
    · simp [addStroke, strokes, e]
    · simp [addStroke, strokes, e, Ne.symm e]
  | cons entry rest ih =>
    obtain ⟨k', n⟩ := entry
    by_cases e : k' = kind
    · subst e
      by_cases e' : k = k'
      · simp [addStroke, strokes, e']
      · simp [addStroke, strokes, e', Ne.symm e']
    · by_cases e' : k' = k
      · subst e'
        simp [addStroke, strokes, e]
      · simp [addStroke, strokes, e, e', ih]

@[simp] theorem total_empty : empty.total = 0 := rfl

theorem total_record (h : Histogram) (kind : Kind) : (h.record kind).total = h.total + 1 := by
  obtain ⟨tally⟩ := h
  simp only [record, total]
  induction tally with
  | nil => rfl
  | cons entry rest ih =>
    obtain ⟨k, n⟩ := entry
    simp only [addStroke]
    split
    · simp only [allStrokes]
      omega
    · simp only [allStrokes, ih]
      omega

end Histogram

namespace Expr

/-- Adds the kind of a node to a histogram. -/
def countKind (h : Histogram) (e : Expr) : Histogram := h.record e.kind

/-- How many nodes of each kind an expression has. -/
def histogram (e : Expr) : Histogram := e.visit countKind Histogram.empty

/-- How many nodes of each kind several expressions have, counted by one pass over all of them. -/
def histogramOf (es : List Expr) : Histogram := visitAll countKind Histogram.empty es

end Expr
end EntityQuery
