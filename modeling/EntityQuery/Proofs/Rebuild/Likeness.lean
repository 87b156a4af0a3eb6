import EntityQuery.Proofs.Expr.Layout
import EntityQuery.Proofs.Expr.Passes
import EntityQuery.Proofs.Types.Standard
/-!
# `Proofs.Rebuild.Likeness` — expressions that no pass tells apart

An expression that is built a second time gets new type uses, and nothing else changes. Two types are
**alike** when they differ in the identity of nested element types only; whatever a check asks of a type it
answers the same for types alike. Two expressions **look alike** when they have the same outline at every
depth, the same kinds in pre-order, and refer to the same parameters.

## Contents
* `Shape.Alike` — `equals_of_alike`, `promotesTo_of_alike`, `eq_of_alike`.
* `Expr.LooksAlike`, `looksAlike_of_children` — looking alike goes by the line of a node and its children.
* `Expr.Resembles` — looking alike and having types alike; `resembles_of_children`.
-/

namespace EntityQuery

/-! ## Types alike -/

/-- **Alike.** The shapes are the same up to the identities of the element types of nested collections. -/
inductive Shape.Alike : EdmShape → EdmShape → Prop
  | refl (s : EdmShape) : Alike s s
  | collection {t u : TypeUse} (element : Alike t.shape u.shape) : Alike (.collection t) (.collection u)

namespace Shape

variable {s t u : EdmShape}

/-- Shapes alike are of one type. -/
theorem equals_of_alike (h : Alike s t) : s.equals t = true := by
  induction h with
  | refl s => exact equals_refl s
  | collection _ ih => exact equals_iff.mpr (.collection ih)

/-- Shapes alike are written alike. -/
theorem text_of_alike (h : Alike s t) : s.text = t.text := text_eq_of_equals (equals_of_alike h)

/-- A shape alike to one that may stand somewhere may stand there as well. -/
theorem promotesTo_of_alike (h : Alike s t) (k : s.promotesTo u = true) : t.promotesTo u = true := by
  induction h generalizing u with
  | refl s => exact k
  | collection _ ih =>
    cases promotesTo_iff.mp k with
    | collection promotes => exact promotesTo_iff.mpr (.collection (ih promotes))

/-- Only a collection is alike to anything but itself. -/
theorem eq_of_alike (h : Alike s t) (single : ∀ e, s ≠ .collection e) : t = s := by
  cases h with
  | refl => rfl
  | collection => exact absurd rfl (single _)

/-- What is alike to a collection is a collection of elements alike. -/
theorem exists_of_alike_collection {e : TypeUse} (h : Alike (.collection e) t) :
    ∃ f, t = .collection f ∧ Alike e.shape f.shape := by
  cases h with
  | refl => exact ⟨e, rfl, .refl _⟩
  | collection element => exact ⟨_, rfl, element⟩

end Shape

/-- Operators apply to shapes alike. -/
theorem Comparison.AppliesTo.of_alike {operator : Comparison} {l r l' r' : EdmShape}
    (applies : operator.AppliesTo l r) (hl : l.Alike l') (hr : r.Alike r') : operator.AppliesTo l' r' := by
  -- collections are not compared, so the shapes are the same
  have single : (∀ e, l ≠ .collection e) ∧ ∀ e, r ≠ .collection e := by
    cases applies with
    | scalars left right _ _ =>
      constructor
      · rintro e rfl
        exact absurd left (by simp [Shape.carrier?])
      · rintro e rfl
        exact absurd right (by simp [Shape.carrier?])
    | entities _ _ | references _ _ =>
      constructor
      · intro e same
        cases same
      · intro e same
        cases same
  rw [Shape.eq_of_alike hl single.1, Shape.eq_of_alike hr single.2]
  exact applies

/-! ## Expressions that look alike -/

namespace Expr

/-- **Looking alike.** The expressions have the same outline at every depth, the same kinds of nodes in
    pre-order, and refer to the same parameters in the same order. -/
structure LooksAlike (e f : Expr) : Prop where
  layout : ∀ depth, e.layout depth = f.layout depth
  kinds : e.preorder.map kind = f.preorder.map kind
  references : e.parameterReferences = f.parameterReferences

/-- Related entities that look alike are related over the same ends. -/
structure RelatedLooksAlike (r q : Related) : Prop where
  source : r.source = q.source
  target : r.target = q.target
  reference : Expr.LooksAlike r.reference q.reference

theorem looksAlike_refl (e : Expr) : LooksAlike e e := ⟨fun _ => rfl, rfl, rfl⟩

/-- Nodes whose lines look alike. -/
structure HeadsAlike (e f : Expr) : Prop where
  line : ∀ depth, outlineHead depth e.type e.node = outlineHead depth f.type f.node
  kind : e.kind = f.kind
  parameter : e.parameter? = f.parameter?

/-- Nodes of one kind with one detail, of types written alike, that refer to no parameter look alike. -/
theorem headsAlike_of_detail {e f : Expr} (text : e.type.text = f.type.text) (kind : e.node.kind = f.node.kind)
    (detail : e.node.detail? = f.node.detail?) (parameter : e.parameter? = f.parameter?) :
    HeadsAlike e f := by
  refine ⟨fun depth => ?_, kind, parameter⟩
  rw [outlineHead, outlineHead, text, kind, detail]

/-- Lists of expressions that look alike one by one have the same images. -/
theorem flatMap_eq_of_looksAlike {α : Type} {g : Expr → List α} {es fs : List Expr}
    (h : List.Forall₂ LooksAlike es fs) (same : ∀ e f, LooksAlike e f → g e = g f) :
    es.flatMap g = fs.flatMap g := by
  rw [List.flatMap_def, List.flatMap_def, map_eq_of_forall₂ (fun e _ f _ hef => same e f hef) h]

/-- The children of nodes that look alike, direct ones and references of related entities. -/
theorem forall₂_children {e f : Expr} (direct : List.Forall₂ LooksAlike e.node.direct f.node.direct)
    (related : List.Forall₂ RelatedLooksAlike e.node.related f.node.related) :
    List.Forall₂ LooksAlike e.children f.children := by
  rw [children, children, Node.children_eq_direct_append, Node.children_eq_direct_append]
  refine List.rel_append direct ?_
  exact List.forall₂_map_left_iff.mpr (List.forall₂_map_right_iff.mpr (related.imp fun _ _ h => h.reference))

/-- **Children decide.** Expressions look alike when their top nodes do and their children do one by one. -/
theorem looksAlike_of_children {e f : Expr} (head : HeadsAlike e f)
    (direct : List.Forall₂ LooksAlike e.node.direct f.node.direct)
    (related : List.Forall₂ RelatedLooksAlike e.node.related f.node.related) : LooksAlike e f := by
  have below := forall₂_children direct related
  constructor
  · intro depth
    have lines : (e.node.related.flatMap fun r =>
          relatedHead (depth + 1) r.source r.target :: r.reference.layout (depth + 2)) =
        f.node.related.flatMap fun r =>
          relatedHead (depth + 1) r.source r.target :: r.reference.layout (depth + 2) := by
      rw [List.flatMap_def, List.flatMap_def]
      refine congrArg List.flatten (map_eq_of_forall₂ ?_ related)
      intro r _ q _ hrq
      rw [hrq.source, hrq.target, hrq.reference.layout]
    rw [layout_eq, layout_eq, head.line, lines,
      flatMap_eq_of_looksAlike direct fun e f h => h.layout (depth + 1)]
  · rw [preorder_eq, preorder_eq, List.map_cons, List.map_cons, head.kind, List.map_flatMap, List.map_flatMap,
      flatMap_eq_of_looksAlike below fun e f h => h.kinds]
  · rw [parameterReferences_eq_append, parameterReferences_eq_append, head.parameter,
      flatMap_eq_of_looksAlike below fun e f h => h.references]

/-- **Resembling.** The expressions look alike and their types are alike. -/
structure Resembles (e f : Expr) : Prop where
  type : e.type.shape.Alike f.type.shape
  looks : LooksAlike e f

theorem resembles_refl (e : Expr) : Resembles e e := ⟨.refl _, looksAlike_refl e⟩

/-- Types alike are written alike. -/
theorem text_type_of_alike {e f : Expr} (h : e.type.shape.Alike f.type.shape) : e.type.text = f.type.text := by
  rw [TypeUse.text_eq, TypeUse.text_eq, Shape.text_of_alike h]

/-- **Resembling goes by children.** Nodes of one kind with one detail, of types alike and over children that
    look alike, resemble each other. -/
theorem resembles_of_children {e f : Expr} (type : e.type.shape.Alike f.type.shape)
    (kind : e.node.kind = f.node.kind) (detail : e.node.detail? = f.node.detail?)
    (parameter : e.parameter? = f.parameter?)
    (direct : List.Forall₂ LooksAlike e.node.direct f.node.direct)
    (related : List.Forall₂ RelatedLooksAlike e.node.related f.node.related) : Resembles e f := by
  have head : HeadsAlike e f := headsAlike_of_detail (text_type_of_alike type) kind detail parameter
  exact ⟨type, looksAlike_of_children head direct related⟩

/-- Expressions that resemble each other one by one look alike one by one. -/
theorem looksAlike_of_resembles {es fs : List Expr} (h : List.Forall₂ Resembles es fs) :
    List.Forall₂ LooksAlike es fs :=
  h.imp fun _ _ like => like.looks

end Expr
end EntityQuery
