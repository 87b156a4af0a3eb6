import EntityQuery.Proofs.Rebuild.Basic
import EntityQuery.Proofs.Rebuild.Likeness
import EntityQuery.Proofs.Typing.Soundness
/-!
# `Proofs.Rebuild.Identity` — rebuilding gives the expression again

A typed node says all that the matching call asks of its operands, and the call asks only what types alike
answer alike. So an expression whose nodes are all typed can be rebuilt from the leaves up: each child comes
back with a type alike to its own, the call accepts the new children, and the new node resembles the old.
Only a walk asks for more, that its relationship is still alive.

## Contents
* `Rebuilds` — rebuilding succeeds at every place and gives an expression that resembles the old.
* `rebuildAll_of_rebuilds`, `rebuildRelated_of_rebuilds` — lists of children.
* `rebuilds_of_typed` — one typed node over children that can be rebuilt.
* `Expr.rebuilds_of_forall_typed`, `Session.rebuild_eq_ok_of_run` — whole expressions, and all of a run.
-/

namespace EntityQuery

open EntityQuery.Expr

/-- Rebuilding the expression succeeds at every place, and the result resembles it. -/
def Rebuilds (alive : Handle → Bool) (e : Expr) : Prop :=
  ∀ here, ∃ f, e.rebuild ⟨.standard, alive, here⟩ = .ok f ∧ Resembles e f

section Steps

variable {alive : Handle → Bool}

/-! ## Lists of children -/

theorem rebuildAll_of_rebuilds {es : List Expr} (h : ∀ e ∈ es, Rebuilds alive e) (here : Handle) (i : Nat) :
    ∃ fs, rebuildAll ⟨.standard, alive, here⟩ i es = .ok fs ∧ List.Forall₂ Resembles es fs := by
  induction es generalizing i with
  | nil => exact ⟨[], rfl, .nil⟩
  | cons e es ih =>
    obtain ⟨f, hf, like⟩ := h e List.mem_cons_self (here.child i)
    obtain ⟨fs, hfs, alike⟩ := ih (fun c hc => h c (List.mem_cons_of_mem _ hc)) (i + 1)
    refine ⟨f :: fs, ?_, .cons like alike⟩
    exact bind_eq_ok_iff.mpr ⟨f, hf, bind_eq_ok_iff.mpr ⟨fs, hfs, rfl⟩⟩

/-- A well-formed related entity is accepted again on a reference of the same type. -/
theorem related_of_wellFormed {b : Builder} (rules : b.rules = .standard) {r : Related}
    (wellFormed : RelatedOf.WellFormed r) {reference : Expr}
    (same : reference.type.shape = r.reference.type.shape) :
    b.related r.source r.target reference = .ok ⟨r.source, r.target, reference⟩ := by
  obtain ⟨found, shape, isA⟩ := wellFormed.reference
  rw [Builder.related_eq_ok_iff, rules]
  have sameRelationship : r.source.sameRelationship r.target = true := by
    simpa [RelationshipEnd.sameRelationship] using wellFormed.sameRelationship
  have differentEnds : r.source.sameEnd r.target = false := by
    simpa [RelationshipEnd.sameEnd, sameRelationship] using wellFormed.differentEnds
  refine ⟨sameRelationship, differentEnds, wellFormed.atMostOne, ⟨found, ?_, ?_⟩, rfl⟩
  · exact TypeRules.standard_referenceTarget?_eq_some_iff.mpr (same.trans shape)
  · exact RelationshipEnd.accepts_standard_iff.mpr isA

theorem rebuildRelated_of_rebuilds {rs : List Related} (h : ∀ r ∈ rs, Rebuilds alive r.reference)
    (wellFormed : ∀ r ∈ rs, RelatedOf.WellFormed r) (here : Handle) (i : Nat) :
    ∃ qs, rebuildRelated ⟨.standard, alive, here⟩ i rs = .ok qs ∧ List.Forall₂ RelatedLooksAlike rs qs := by
  induction rs generalizing i with
  | nil => exact ⟨[], rfl, .nil⟩
  | cons r rs ih =>
    obtain ⟨f, hf, like⟩ := h r List.mem_cons_self (here.child i)
    obtain ⟨qs, hqs, alike⟩ := ih (fun q hq => h q (List.mem_cons_of_mem _ hq))
      (fun q hq => wellFormed q (List.mem_cons_of_mem _ hq)) (i + 1)
    have valid := wellFormed r List.mem_cons_self
    obtain ⟨found, shape, _⟩ := valid.reference
    have same : f.type.shape = r.reference.type.shape :=
      Shape.eq_of_alike like.type (fun e he => by rw [shape] at he; cases he)
    have made := @related_of_wellFormed ⟨.standard, alive, here⟩ rfl r valid f same
    refine ⟨⟨r.source, r.target, f⟩ :: qs, ?_, .cons ⟨rfl, rfl, like.looks⟩ alike⟩
    exact bind_eq_ok_iff.mpr ⟨f, hf, bind_eq_ok_iff.mpr ⟨_, made, bind_eq_ok_iff.mpr ⟨qs, hqs, rfl⟩⟩⟩

/-- New operands may stand where the old ones may. -/
theorem placed_of_resembles {types : List TypeUse} {es fs : List Expr} (placed : Placed types es)
    (h : List.Forall₂ Resembles es fs) : Placed types fs :=
  forall₂_trans_of_mem (fun _ _ _ _ _ _ promotes like => Shape.promotesTo_of_alike like.type promotes) placed h

/-- There are as many new operands as old. -/
theorem ne_nil_of_resembles {es fs : List Expr} (h : List.Forall₂ Resembles es fs) (nonempty : es ≠ []) :
    fs ≠ [] := by
  rintro rfl
  exact nonempty (List.forall₂_nil_right_iff.mp h)

/-! ## One node -/

/-- A node that its call makes again as it is. -/
theorem rebuilds_of_eq {e : Expr} (h : ∀ here, e.rebuild ⟨.standard, alive, here⟩ = .ok e) :
    Rebuilds alive e :=
  fun here => ⟨e, h here, resembles_refl e⟩

/-- The new child has the shape of the old when that is not a collection. -/
theorem shape_of_resembles {e f : Expr} (like : Resembles e f) {s : EdmShape} (shape : e.type.shape = s)
    (single : ∀ t, s ≠ .collection t) : f.type.shape = s := by
  rw [Shape.eq_of_alike like.type (shape ▸ single), shape]

theorem rebuilds_property {type : TypeUse} {member : Member} {object : Expr}
    (found : object.type.shape.member? member.name = some member) (declared : member.type? = some type)
    (h : Rebuilds alive object) : Rebuilds alive ⟨type, .property member object⟩ := by
  intro here
  obtain ⟨o, ho, like⟩ := h (here.child 1)
  -- what has members is no collection
  have same : o.type.shape = object.type.shape := by
    refine Shape.eq_of_alike like.type ?_
    intro t ht
    rw [ht] at found
    exact absurd found (by simp [Shape.member?, Shape.structuralProperty?])
  rw [← same] at found
  have made : (Builder.mk .standard alive here).property o member.name = .ok ⟨type, .property member o⟩ :=
    Builder.property_eq_ok_iff.mpr ⟨member, type, found, declared, rfl⟩
  have matching : (Builder.mk .standard alive here).propertyOf o member = .ok ⟨type, .property member o⟩ := by
    cases member with
    | navigation n =>
      -- a look-up by name never finds a navigation property
      unfold Shape.member? at found
      split at found <;> exact absurd found (by simp)
    | property _ | relationshipEnd _ | enumMember _ => exact made
  refine ⟨_, bind_eq_ok_iff.mpr ⟨o, ho, matching⟩, ?_⟩
  exact resembles_of_children (.refl _) rfl rfl rfl (.cons like.looks .nil) .nil

theorem rebuilds_navigationProperty {object : Expr} {instanceType : Entity} {n : NavigationProperty}
    (entity : object.type.shape = .entity instanceType) (isA : instanceType.IsA n.fromEnd.entity)
    (h : Rebuilds alive object) : Rebuilds alive ⟨n.type, .property (.navigation n) object⟩ := by
  intro here
  obtain ⟨o, ho, like⟩ := h (here.child 1)
  have shape := shape_of_resembles like entity nofun
  have made : (Builder.mk .standard alive here).navigationProperty o n =
      .ok ⟨n.type, .property (.navigation n) o⟩ :=
    Builder.navigationProperty_eq_ok_iff.mpr
      ⟨TypeRules.standard_covers_entity_iff.mpr ⟨instanceType, shape, isA⟩, rfl⟩
  refine ⟨_, bind_eq_ok_iff.mpr ⟨o, ho, made⟩, ?_⟩
  exact resembles_of_children (.refl _) rfl rfl rfl (.cons like.looks .nil) .nil

theorem rebuilds_function {type : TypeUse} {f : FunctionDecl} {arguments : List Expr}
    (returned : f.returnType? = some type) (placed : Placed (f.parameters.map (·.type)) arguments)
    (h : ∀ e ∈ arguments, Rebuilds alive e) : Rebuilds alive ⟨type, .function f arguments⟩ := by
  intro here
  obtain ⟨es, hes, like⟩ := rebuildAll_of_rebuilds h here 1
  have made : (Builder.mk .standard alive here).function f es = .ok ⟨type, .function f es⟩ :=
    Builder.function_eq_ok_iff.mpr ⟨type, returned, placed_of_resembles placed like, rfl⟩
  refine ⟨_, bind_eq_ok_iff.mpr ⟨es, hes, made⟩, ?_⟩
  exact resembles_of_children (.refl _) rfl rfl rfl (looksAlike_of_resembles like) .nil

/-- A well-formed lambda is accepted again, over the new body. -/
theorem lambda_of_wellFormed {b : Builder} {l : Lambda} (wellFormed : LambdaOf.WellFormed l) (body : Expr) :
    b.lambda (l.formals.map fun v => (v.name, v.type)) body = .ok ⟨l.formals, body⟩ := by
  rw [Builder.lambda_eq_ok_iff]
  refine ⟨?_, ?_, ?_⟩
  · intro v hv
    obtain ⟨w, hw, rfl⟩ := List.mem_map.mp hv
    exact wellFormed.named w hw
  · rw [List.map_map]
    exact wellFormed.distinct
  · rw [List.map_map]
    show _ = LambdaOf.mk (l.formals.map id) body
    rw [List.map_id]

theorem rebuilds_lambda {l : Lambda} {arguments : List Expr} (wellFormed : LambdaOf.WellFormed l)
    (placed : Placed (l.formals.map (·.type)) arguments) (h : ∀ e ∈ arguments, Rebuilds alive e)
    (hb : Rebuilds alive l.body) : Rebuilds alive ⟨l.body.type, .lambda l arguments⟩ := by
  intro here
  obtain ⟨formals, body⟩ := l
  obtain ⟨es, hes, like⟩ := rebuildAll_of_rebuilds h here 2
  obtain ⟨f, hf, likeBody⟩ := hb (here.child 1)
  have again := @lambda_of_wellFormed ⟨.standard, alive, here⟩ ⟨formals, body⟩ wellFormed f
  have made : (Builder.mk .standard alive here).invoke ⟨formals, f⟩ es =
      .ok ⟨f.type, .lambda ⟨formals, f⟩ es⟩ :=
    Builder.invoke_eq_ok_iff.mpr ⟨placed_of_resembles placed like, rfl⟩
  refine ⟨⟨f.type, .lambda ⟨formals, f⟩ es⟩, ?_, ?_⟩
  · refine bind_eq_ok_iff.mpr ⟨es, hes, bind_eq_ok_iff.mpr ⟨f, hf, ?_⟩⟩
    exact bind_eq_ok_iff.mpr ⟨_, again, made⟩
  · refine resembles_of_children likeBody.type rfl rfl rfl ?_ .nil
    exact List.rel_append (looksAlike_of_resembles like) (.cons likeBody.looks .nil)

theorem rebuilds_navigation {type : TypeUse} {source : Expr} {target : Entity}
    {fromEnd toEnd : RelationshipEnd} (reference : source.type.shape = .reference target)
    (isA : target.IsA fromEnd.entity) (sameRelationship : toEnd.relationship.id = fromEnd.relationship.id)
    (walk : type.IsWalkTo toEnd) (living : alive fromEnd.relationship.id = true) (h : Rebuilds alive source) :
    Rebuilds alive ⟨type, .navigation fromEnd.relationship fromEnd toEnd source⟩ := by
  intro here
  obtain ⟨o, ho, like⟩ := h (here.child 1)
  have shape := shape_of_resembles like reference nofun
  have declared : toEnd.isDeclaredBy fromEnd.relationship = true := by
    simpa [RelationshipEnd.isDeclaredBy] using sameRelationship
  have covers : TypeRules.standard.covers (.reference fromEnd.entity) o.type.shape = true :=
    TypeRules.standard_covers_reference_iff.mpr ⟨target, shape, isA⟩
  have made := (@Builder.navigate_eq_ok_iff ⟨.standard, alive, here⟩ _ o fromEnd toEnd).mpr
    ⟨living, covers, declared, rfl⟩
  have alikeType : type.shape.Alike ((Builder.mk .standard alive here).navigationType toEnd).shape := by
    unfold TypeUse.IsWalkTo at walk
    unfold Builder.navigationType
    by_cases one : toEnd.isAtMostOne = true
    · rw [if_pos one] at walk ⊢
      rw [walk]
      exact .refl _
    · rw [if_neg one] at walk ⊢
      rw [walk]
      exact .refl _
  refine ⟨_, bind_eq_ok_iff.mpr ⟨o, ho, made⟩, ?_⟩
  exact resembles_of_children alikeType rfl rfl rfl (.cons like.looks .nil) .nil

/-! ## Instances and references -/

/-- An instance without related entities, of elements that make one. -/
theorem rebuilds_newInstance {type : TypeUse} {elements : List Expr}
    (fit : ∀ fs, List.Forall₂ Resembles elements fs → ElementsFit .standard type.shape fs)
    (nonempty : elements ≠ [] ∨ TypeRules.standard.isCollection type.shape = true)
    (h : ∀ e ∈ elements, Rebuilds alive e) : Rebuilds alive ⟨type, .newInstance elements []⟩ := by
  intro here
  obtain ⟨es, hes, like⟩ := rebuildAll_of_rebuilds h here 1
  have made : (Builder.mk .standard alive here).newInstance type es = .ok ⟨type, .newInstance es []⟩ :=
    Builder.newInstance_eq_ok_iff.mpr ⟨fit es like, nonempty.imp_left (ne_nil_of_resembles like), rfl⟩
  refine ⟨_, bind_eq_ok_iff.mpr ⟨es, hes, made⟩, ?_⟩
  exact resembles_of_children (.refl _) rfl rfl rfl (looksAlike_of_resembles like) .nil

theorem rebuilds_entity {type : TypeUse} {elements : List Expr} {related : List Related} {e : Entity}
    (shape : type.shape = .entity e) (nonempty : elements ≠ [])
    (placed : Placed (e.properties.map (·.type)) elements) (joined : ∀ r ∈ related, RelatedOf.WellFormed r)
    (h : ∀ c ∈ elements, Rebuilds alive c) (hr : ∀ r ∈ related, Rebuilds alive r.reference) :
    Rebuilds alive ⟨type, .newInstance elements related⟩ := by
  have fit (fs : List Expr) (like : List.Forall₂ Resembles elements fs) :
      ElementsFit .standard type.shape fs := by
    rw [shape]
    exact placed_of_resembles placed like
  cases related with
  | nil => exact rebuilds_newInstance fit (.inl nonempty) h
  | cons r rs =>
    intro here
    obtain ⟨es, hes, like⟩ := rebuildAll_of_rebuilds h here 1
    obtain ⟨qs, hqs, alike⟩ := rebuildRelated_of_rebuilds hr joined here (1 + es.length)
    have fit := fit es like
    rw [shape] at fit
    have isEntity : TypeRules.standard.isEntity (.entity e) = true :=
      TypeRules.standard_isEntity_iff.mpr ⟨e, rfl⟩
    have made : (Builder.mk .standard alive here).newEntity e es qs =
        .ok ⟨⟨here, .entity e⟩, .newInstance es qs⟩ :=
      Builder.newEntity_eq_ok_iff.mpr ⟨fit, isEntity, .inl (ne_nil_of_resembles like nonempty), rfl⟩
    have matching : (Builder.mk .standard alive here).instanceOf type es qs =
        .ok ⟨⟨here, .entity e⟩, .newInstance es qs⟩ := by
      cases alike with
      | cons _ _ =>
        rw [Builder.instanceOf, shape]
        · exact made
        · exact nofun
    have alikeType : type.shape.Alike (.entity e) := shape ▸ .refl _
    refine ⟨_, bind_eq_ok_iff.mpr ⟨es, hes, bind_eq_ok_iff.mpr ⟨qs, hqs, matching⟩⟩, ?_⟩
    exact resembles_of_children alikeType rfl rfl rfl (looksAlike_of_resembles like) alike

/-- Columns of the same names over expressions of types alike are written alike. -/
theorem map_columnText_of_resembles {es fs : List Expr} (like : List.Forall₂ Resembles es fs)
    (names : List String) :
    (names.zip es).map (fun c => c.1 ++ " " ++ c.2.type.text) =
      (names.zip fs).map (fun c => c.1 ++ " " ++ c.2.type.text) := by
  induction like generalizing names with
  | nil => rfl
  | cons first _ ih =>
    cases names with
    | nil => rfl
    | cons n ns =>
      rw [List.zip_cons_cons, List.zip_cons_cons, List.map_cons, List.map_cons, ih ns,
        text_type_of_alike first.type]

/-- The rows of keys of a reference and of its rebuilt look alike, if their keys do. -/
theorem looksAlike_keyRow {row : Expr} {set : EntitySet} {keys ks : List Expr} {b : Builder}
    (rowShape : row.type.shape = Builder.rowShape (set.entity.keyMembers.zip keys))
    (rowNode : row.node = .newInstance keys []) (like : List.Forall₂ Resembles keys ks) :
    LooksAlike row (b.keyRow set ks) := by
  obtain ⟨rowType, node⟩ := row
  obtain rfl := rowNode
  have text (es : List Expr) : (Builder.rowShape (set.entity.keyMembers.zip es)).text =
      "Row(" ++ ", ".intercalate
        ((set.entity.keyMembers.zip es).map fun c => c.1 ++ " " ++ c.2.type.text) ++ ")" := by
    rw [Builder.rowShape, Shape.text, columnTexts_eq_map, List.map_map]
    rfl
  refine looksAlike_of_children (headsAlike_of_detail ?_ rfl rfl rfl) (looksAlike_of_resembles like) .nil
  show rowType.text = TypeUse.text ⟨_, Builder.rowShape (set.entity.keyMembers.zip ks)⟩
  rw [TypeUse.text_eq, TypeUse.text_eq, show rowType.shape = _ from rowShape, text, text,
    map_columnText_of_resembles like]

theorem rebuilds_ref {type : TypeUse} {row : Expr} {keys : List Expr} {properties : List (Property TypeUse)}
    {set : EntitySet} (shape : type.shape = .reference set.entity)
    (rowShape : row.type.shape = Builder.rowShape (set.entity.keyMembers.zip keys))
    (rowNode : row.node = .newInstance keys []) (nonempty : keys ≠ [])
    (found : List.Forall₂ (fun n p => set.entity.property? n = some p) set.entity.keyMembers properties)
    (placed : Placed (properties.map (·.type)) keys) (h : ∀ k ∈ keys, Rebuilds alive k) :
    Rebuilds alive ⟨type, .ref set row⟩ := by
  intro here
  obtain ⟨ks, hks, like⟩ := rebuildAll_of_rebuilds h here 1
  have isReference : TypeRules.standard.isReference (.reference set.entity) = true :=
    TypeRules.standard_isReference_iff.mpr ⟨set.entity, rfl⟩
  have made := (@Builder.ref_eq_ok_iff ⟨.standard, alive, here⟩ _ set ks).mpr
    ⟨properties, found, placed_of_resembles placed like, .inl (ne_nil_of_resembles like nonempty),
      isReference, rfl⟩
  have alikeType : type.shape.Alike (.reference set.entity) := shape ▸ .refl _
  have again := @looksAlike_keyRow row set keys ks ⟨.standard, alive, here⟩ rowShape rowNode like
  let row' := Builder.keyRow ⟨.standard, alive, here⟩ set ks
  refine ⟨⟨⟨here, .reference set.entity⟩, .ref set row'⟩, ?_, ?_⟩
  · obtain ⟨rowType, node⟩ := row
    obtain rfl := rowNode
    exact bind_eq_ok_iff.mpr ⟨ks, hks, made⟩
  · exact resembles_of_children alikeType rfl rfl rfl (.cons again .nil) .nil

theorem rebuilds_deref {type : TypeUse} {reference : Expr} {e : Entity}
    (target : reference.type.shape = .reference e) (shape : type.shape = .entity e)
    (h : Rebuilds alive reference) : Rebuilds alive ⟨type, .deref reference⟩ := by
  intro here
  obtain ⟨o, ho, like⟩ := h (here.child 1)
  have again := shape_of_resembles like target nofun
  have made := (@Builder.deref_eq_ok_iff ⟨.standard, alive, here⟩ _ o).mpr
    ⟨e, TypeRules.standard_referenceTarget?_eq_some_iff.mpr again,
      TypeRules.standard_isEntity_iff.mpr ⟨e, rfl⟩, TypeRules.standard_isReference_iff.mpr ⟨e, again⟩, rfl⟩
  have alikeType : type.shape.Alike (.entity e) := shape ▸ .refl _
  refine ⟨_, bind_eq_ok_iff.mpr ⟨o, ho, made⟩, ?_⟩
  exact resembles_of_children alikeType rfl rfl rfl (.cons like.looks .nil) .nil

theorem rebuilds_scan {place : Handle} {extent : Extent} :
    Rebuilds alive ⟨extent.scanType place, .scan extent⟩ := by
  intro here
  have made := (@Builder.scan_eq_ok_iff ⟨.standard, alive, here⟩ _ extent).mpr
    ⟨⟨_, rfl, Shape.equals_refl extent.elementShape⟩, rfl⟩
  have alikeType : (extent.scanType place).shape.Alike (extent.scanType here).shape := .collection (.refl _)
  exact ⟨_, made, resembles_of_children alikeType rfl rfl rfl .nil .nil⟩

/-! ## Conditions and sets -/

theorem alike_booleanAt {type : TypeUse} (boolean : type.shape = .primitive .boolean) (here : Handle) :
    type.shape.Alike (booleanAt here).shape := by
  rw [boolean]
  exact .refl _

theorem rebuilds_comparison {type : TypeUse} {operator : Comparison} {left right : Expr}
    (boolean : type.shape = .primitive .boolean)
    (applies : operator.AppliesTo left.type.shape right.type.shape) (hl : Rebuilds alive left)
    (hr : Rebuilds alive right) : Rebuilds alive ⟨type, .comparison operator left right⟩ := by
  intro here
  obtain ⟨l, hl, likeLeft⟩ := hl (here.child 1)
  obtain ⟨r, hr, likeRight⟩ := hr (here.child 2)
  obtain ⟨comparable, either⟩ := standard_comparable_iff.mpr (applies.of_alike likeLeft.type likeRight.type)
  have made := (@Builder.compare_eq_ok_iff ⟨.standard, alive, here⟩ _ operator l r).mpr
    ⟨comparable, either, rfl⟩
  have alikeType := alike_booleanAt boolean here
  refine ⟨_, bind_eq_ok_iff.mpr ⟨l, hl, bind_eq_ok_iff.mpr ⟨r, hr, made⟩⟩, ?_⟩
  exact resembles_of_children alikeType rfl rfl rfl (.cons likeLeft.looks (.cons likeRight.looks .nil)) .nil

/-- A Boolean operand comes back as one. -/
theorem isBoolean_of_resembles {e f : Expr} (like : Resembles e f)
    (boolean : e.type.shape = .primitive .boolean) :
    TypeRules.standard.isBoolean f.type.shape = true :=
  TypeRules.standard_isBoolean_iff.mpr (shape_of_resembles like boolean nofun)

theorem rebuilds_and {type : TypeUse} {left right : Expr} (boolean : type.shape = .primitive .boolean)
    (ofLeft : left.type.shape = .primitive .boolean) (ofRight : right.type.shape = .primitive .boolean)
    (hl : Rebuilds alive left) (hr : Rebuilds alive right) : Rebuilds alive ⟨type, .and left right⟩ := by
  intro here
  obtain ⟨l, hl, likeLeft⟩ := hl (here.child 1)
  obtain ⟨r, hr, likeRight⟩ := hr (here.child 2)
  have made := (@Builder.and_eq_ok_iff ⟨.standard, alive, here⟩ _ l r).mpr
    ⟨isBoolean_of_resembles likeLeft ofLeft, isBoolean_of_resembles likeRight ofRight, rfl⟩
  have alikeType := alike_booleanAt boolean here
  refine ⟨_, bind_eq_ok_iff.mpr ⟨l, hl, bind_eq_ok_iff.mpr ⟨r, hr, made⟩⟩, ?_⟩
  exact resembles_of_children alikeType rfl rfl rfl (.cons likeLeft.looks (.cons likeRight.looks .nil)) .nil

theorem rebuilds_or {type : TypeUse} {left right : Expr} (boolean : type.shape = .primitive .boolean)
    (ofLeft : left.type.shape = .primitive .boolean) (ofRight : right.type.shape = .primitive .boolean)
    (hl : Rebuilds alive left) (hr : Rebuilds alive right) : Rebuilds alive ⟨type, .or left right⟩ := by
  intro here
  obtain ⟨l, hl, likeLeft⟩ := hl (here.child 1)
  obtain ⟨r, hr, likeRight⟩ := hr (here.child 2)
  have made := (@Builder.or_eq_ok_iff ⟨.standard, alive, here⟩ _ l r).mpr
    ⟨isBoolean_of_resembles likeLeft ofLeft, isBoolean_of_resembles likeRight ofRight, rfl⟩
  have alikeType := alike_booleanAt boolean here
  refine ⟨_, bind_eq_ok_iff.mpr ⟨l, hl, bind_eq_ok_iff.mpr ⟨r, hr, made⟩⟩, ?_⟩
  exact resembles_of_children alikeType rfl rfl rfl (.cons likeLeft.looks (.cons likeRight.looks .nil)) .nil

theorem rebuilds_not {type : TypeUse} {argument : Expr} (boolean : type.shape = .primitive .boolean)
    (ofArgument : argument.type.shape = .primitive .boolean) (h : Rebuilds alive argument) :
    Rebuilds alive ⟨type, .not argument⟩ := by
  intro here
  obtain ⟨o, ho, like⟩ := h (here.child 1)
  have made := (@Builder.not_eq_ok_iff ⟨.standard, alive, here⟩ _ o).mpr
    ⟨isBoolean_of_resembles like ofArgument, rfl⟩
  have alikeType := alike_booleanAt boolean here
  refine ⟨_, bind_eq_ok_iff.mpr ⟨o, ho, made⟩, ?_⟩
  exact resembles_of_children alikeType rfl rfl rfl (.cons like.looks .nil) .nil

theorem rebuilds_isNull {type : TypeUse} {argument : Expr} (boolean : type.shape = .primitive .boolean)
    (single : ∀ t, argument.type.shape ≠ .collection t) (h : Rebuilds alive argument) :
    Rebuilds alive ⟨type, .isNull argument⟩ := by
  intro here
  obtain ⟨o, ho, like⟩ := h (here.child 1)
  have same : o.type.shape = argument.type.shape := Shape.eq_of_alike like.type single
  have noCollection : TypeRules.standard.isCollection o.type.shape = false := by
    rw [← Bool.not_eq_true, TypeRules.standard_isCollection_iff, same]
    rintro ⟨t, ht⟩
    exact single t ht
  have made := (@Builder.isNull_eq_ok_iff ⟨.standard, alive, here⟩ _ o).mpr ⟨noCollection, rfl⟩
  have alikeType := alike_booleanAt boolean here
  refine ⟨_, bind_eq_ok_iff.mpr ⟨o, ho, made⟩, ?_⟩
  exact resembles_of_children alikeType rfl rfl rfl (.cons like.looks .nil) .nil

/-- A well-formed binding is accepted again, over the new source and with its element type. -/
theorem bind_of_wellFormed {b : Builder} (rules : b.rules = .standard) {input : Binding}
    (wellFormed : BindingOf.WellFormed input) {source : Expr} (like : Resembles input.source source) :
    ∃ t, b.bind source input.element.name = .ok ⟨source, ⟨input.element.name, t⟩⟩ := by
  have alike := like.type
  rw [wellFormed.element] at alike
  obtain ⟨t, shape, _⟩ := Shape.exists_of_alike_collection alike
  refine ⟨t, Builder.bind_eq_ok_iff_element.mpr ⟨t, ?_, wellFormed.named, rfl⟩⟩
  rw [rules]
  exact TypeRules.standard_element?_eq_some_iff.mpr shape

theorem rebuilds_filter {input : Binding} {predicate : Expr} (wellFormed : BindingOf.WellFormed input)
    (condition : predicate.type.shape = .primitive .boolean) (hs : Rebuilds alive input.source)
    (hp : Rebuilds alive predicate) : Rebuilds alive ⟨input.source.type, .filter input predicate⟩ := by
  intro here
  obtain ⟨source, element⟩ := input
  obtain ⟨o, ho, like⟩ := hs (here.child 1)
  obtain ⟨p, hp, likePredicate⟩ := hp (here.child 2)
  obtain ⟨t, bound⟩ := @bind_of_wellFormed ⟨.standard, alive, here⟩ rfl _ wellFormed o like
  have made := (@Builder.filter_eq_ok_iff ⟨.standard, alive, here⟩ _ ⟨o, ⟨element.name, t⟩⟩ p).mpr
    ⟨isBoolean_of_resembles likePredicate condition, rfl⟩
  refine ⟨⟨o.type, .filter ⟨o, ⟨element.name, t⟩⟩ p⟩, ?_, ?_⟩
  · exact bind_eq_ok_iff.mpr ⟨o, ho, bind_eq_ok_iff.mpr ⟨p, hp, bind_eq_ok_iff.mpr ⟨_, bound, made⟩⟩⟩
  · refine resembles_of_children like.type rfl rfl rfl ?_ .nil
    exact .cons like.looks (.cons likePredicate.looks .nil)

theorem rebuilds_project {type : TypeUse} {input : Binding} {projection : Expr}
    (wellFormed : BindingOf.WellFormed input) (shape : type.shape = .collection projection.type)
    (hs : Rebuilds alive input.source) (hp : Rebuilds alive projection) :
    Rebuilds alive ⟨type, .project input projection⟩ := by
  intro here
  obtain ⟨source, element⟩ := input
  obtain ⟨o, ho, like⟩ := hs (here.child 1)
  obtain ⟨p, hp, likeProjection⟩ := hp (here.child 2)
  obtain ⟨t, bound⟩ := @bind_of_wellFormed ⟨.standard, alive, here⟩ rfl _ wellFormed o like
  have alikeType : type.shape.Alike (.collection p.type) := shape ▸ .collection likeProjection.type
  refine ⟨(Builder.mk .standard alive here).project ⟨o, ⟨element.name, t⟩⟩ p, ?_, ?_⟩
  · exact bind_eq_ok_iff.mpr ⟨o, ho, bind_eq_ok_iff.mpr ⟨p, hp, bind_eq_ok_iff.mpr ⟨_, bound, rfl⟩⟩⟩
  · refine resembles_of_children alikeType rfl rfl rfl ?_ .nil
    exact .cons like.looks (.cons likeProjection.looks .nil)

/-! ## Whole expressions -/

/-- **One node.** A typed node can be rebuilt when its children can, and theirs (for the keys of a reference
    are the children of its row), and when the relationship it walks is alive. -/
theorem rebuilds_of_typed {e : Expr} (typed : e.Typed)
    (living : ∀ r fromEnd toEnd source, e.node = .navigation r fromEnd toEnd source → alive r.id = true)
    (children : ∀ c ∈ e.children, Rebuilds alive c)
    (keys : ∀ c ∈ e.children, ∀ k ∈ c.children, Rebuilds alive k) : Rebuilds alive e := by
  cases typed with
  | constant carried =>
    refine rebuilds_of_eq fun here => Builder.constantOf_eq_ok_iff.mpr ⟨?_, carried, rfl⟩
    exact TypeRules.standard_isScalar_of_carrier? carried
  | null => exact rebuilds_of_eq fun _ => rfl
  | variableReference named =>
    exact rebuilds_of_eq fun here =>
      (@Builder.variableReference_eq_ok_iff ⟨.standard, alive, here⟩ _ _ _).mpr ⟨named, rfl⟩
  | parameterReference named =>
    exact rebuilds_of_eq fun here =>
      (@Builder.parameterReference_eq_ok_iff ⟨.standard, alive, here⟩ _ _ _).mpr ⟨named, rfl⟩
  | property found declared => exact rebuilds_property found declared (children _ List.mem_cons_self)
  | navigationProperty entity isA => exact rebuilds_navigationProperty entity isA (children _ List.mem_cons_self)
  | function returned placed => exact rebuilds_function returned placed children
  | lambda wellFormed placed =>
    obtain ⟨arguments, body⟩ := List.forall_mem_append.mp children
    exact rebuilds_lambda wellFormed placed arguments (body _ List.mem_cons_self)
  | navigation reference isA sameRelationship _ walk =>
    exact rebuilds_navigation reference isA sameRelationship walk (living _ _ _ _ rfl)
      (children _ List.mem_cons_self)
  | entity shape nonempty placed joined =>
    obtain ⟨elements, related⟩ := List.forall_mem_append.mp children
    exact rebuilds_entity shape nonempty placed joined elements
      fun r hr => related _ (List.mem_map_of_mem hr)
  | complex shape nonempty placed | row shape nonempty placed =>
    obtain ⟨elements, _⟩ := List.forall_mem_append.mp children
    refine rebuilds_newInstance ?_ (.inl nonempty) elements
    intro fs like
    rw [shape]
    exact placed_of_resembles placed like
  | collection shape each =>
    obtain ⟨elements, _⟩ := List.forall_mem_append.mp children
    have isCollection := TypeRules.standard_isCollection_iff.mpr ⟨_, shape⟩
    refine rebuilds_newInstance ?_ (.inr isCollection) elements
    intro fs like
    rw [shape]
    intro f hf
    -- each new element stands for an old one of a type alike
    obtain ⟨e, he, likeElement⟩ := exists_mem_of_forall₂ (List.Forall₂.flip like) f hf
    exact Shape.promotesTo_of_alike likeElement.type (each e he)
  | @ref _ row _ _ _ shape rowShape rowNode nonempty found placed =>
    refine rebuilds_ref shape rowShape rowNode nonempty found placed ?_
    intro k hk
    refine keys row List.mem_cons_self k ?_
    rw [Expr.children, rowNode]
    exact List.mem_append_left _ hk
  | deref target shape => exact rebuilds_deref target shape (children _ List.mem_cons_self)
  | scan => exact rebuilds_scan
  | comparison boolean applies =>
    exact rebuilds_comparison boolean applies (children _ List.mem_cons_self)
      (children _ (List.mem_cons_of_mem _ List.mem_cons_self))
  | and boolean ofLeft ofRight =>
    exact rebuilds_and boolean ofLeft ofRight (children _ List.mem_cons_self)
      (children _ (List.mem_cons_of_mem _ List.mem_cons_self))
  | or boolean ofLeft ofRight =>
    exact rebuilds_or boolean ofLeft ofRight (children _ List.mem_cons_self)
      (children _ (List.mem_cons_of_mem _ List.mem_cons_self))
  | not boolean ofArgument => exact rebuilds_not boolean ofArgument (children _ List.mem_cons_self)
  | isNull boolean single => exact rebuilds_isNull boolean single (children _ List.mem_cons_self)
  | filter wellFormed condition =>
    exact rebuilds_filter wellFormed condition (children _ List.mem_cons_self)
      (children _ (List.mem_cons_of_mem _ List.mem_cons_self))
  | project wellFormed shape =>
    exact rebuilds_project wellFormed shape (children _ List.mem_cons_self)
      (children _ (List.mem_cons_of_mem _ List.mem_cons_self))

/-- **Whole expressions.** An expression of typed nodes can be rebuilt while the relationships that it walks
    are alive, and so can each of its children. -/
theorem rebuilds_of_forall_typed {e : Expr} (typed : ∀ n ∈ e.preorder, n.Typed)
    (living : ∀ n ∈ e.preorder, ∀ r fromEnd toEnd source,
      n.node = .navigation r fromEnd toEnd source → alive r.id = true) :
    Rebuilds alive e ∧ ∀ c ∈ e.children, Rebuilds alive c := by
  induction e using Expr.inductionOnChildren with
  | step e ih =>
    obtain ⟨top, below⟩ := forall_mem_preorder_iff.mp typed
    obtain ⟨livingTop, livingBelow⟩ := forall_mem_preorder_iff.mp living
    have children : ∀ c ∈ e.children, Rebuilds alive c := fun c hc => (ih c hc (below c hc) (livingBelow c hc)).1
    refine ⟨rebuilds_of_typed top livingTop children ?_, children⟩
    exact fun c hc => (ih c hc (below c hc) (livingBelow c hc)).2

end Steps

namespace Session

/-! ## Runs -/

/-- What a held value mentions is alive. -/
theorem alive_of_has {s : Session} {v : Value} {id : Handle} (held : s.Has v) (h : v.mentions id = true) :
    s.alive id = true := by
  obtain ⟨name, held⟩ := held
  rw [alive, List.any_eq_true]
  exact ⟨_, List.mem_of_find?_eq_some (find?_eq_some_iff.mp held), h⟩

/-- The relationships that a held expression of typed nodes walks are alive. -/
theorem alive_of_mem_preorder {s : Session} {e n : Expr} (held : s.Has (.expression e)) (hn : n ∈ e.preorder)
    (typed : n.Typed) {r : Relationship} {fromEnd toEnd : RelationshipEnd} {source : Expr}
    (walk : n.node = .navigation r fromEnd toEnd source) : s.alive r.id = true := by
  refine alive_of_has held ?_
  show e.mentions r.id = true
  rw [mentions_eq_any, List.any_eq_true]
  refine ⟨n, hn, ?_⟩
  obtain ⟨type, node⟩ := n
  obtain rfl := walk
  cases typed with
  | navigation _ _ _ noted _ =>
    rw [topMentions, Node.mentions, noted]
    simp

/-- **Rebuilding is the identity.** Every expression that a run of the builder under the standard rules holds
    can be rebuilt, at any place: the result is of the same type, prints the same outline, has as many nodes
    of each kind, and refers to the same parameters in the same order. -/
theorem rebuild_eq_ok_of_run {steps : List Step} (built : ∀ t ∈ steps, t.isExplicit = false) {e : Expr}
    (held : (empty.run .standard steps).Has (.expression e)) (here : Handle) :
    ∃ f, e.rebuild ⟨.standard, (empty.run .standard steps).alive, here⟩ = .ok f ∧
      f.type.shape.equals e.type.shape = true ∧ f.outline = e.outline ∧ f.histogram = e.histogram ∧
      f.parameterReferences = e.parameterReferences := by
  have typed : ∀ n ∈ e.preorder, n.Typed := (sound_typed_run built _ held).expression
  have living : ∀ n ∈ e.preorder, ∀ r fromEnd toEnd source,
      n.node = .navigation r fromEnd toEnd source → (empty.run .standard steps).alive r.id = true :=
    fun n hn _ _ _ _ walk => alive_of_mem_preorder held hn (typed n hn) walk
  obtain ⟨f, made, like⟩ := (rebuilds_of_forall_typed typed living).1 here
  refine ⟨f, made, ?_, ?_, ?_, ?_⟩
  · exact Shape.equals_symm (Shape.equals_of_alike like.type)
  · rw [outline_eq, outline_eq, like.looks.layout]
  · exact histogram_congr like.looks.kinds.symm
  · exact like.looks.references.symm

/-- From a person found by its key to the references to all friends. -/
def friendsOfOne : List Step := [
  .make (some "Person") (.model (.entity ⟨"Town", "Person"⟩ none [⟨⟨"Id", .primitive .int64⟩, true⟩])),
  .make (some "Friendship") (.model (.relationship ⟨"Town", "Friendship"⟩
    [⟨"one", "Person", .one⟩, ⟨"other", "Person", .many⟩])),
  .make (some "one") (.model (.relationshipEnd "Friendship" "one")),
  .make (some "other") (.model (.relationshipEnd "Friendship" "other")),
  .make (some "People") (.model (.entitySet "Town" "People" "Person")),
  .make (some "id") (.build (.parameterReference "id" (.primitive .int32))),
  .make (some "person") (.build (.ref "People" ["id"])),
  .make (some "friends") (.build (.navigate "person" "one" "other")),
  .drop ["Friendship"]]

theorem rebuild_friendsOfOne :
    (∀ t ∈ friendsOfOne, t.isExplicit = false) ∧
    ∃ e f, (empty.run .standard friendsOfOne).find? "friends" = some (.expression e) ∧
      e.rebuild ((empty.run .standard friendsOfOne).builder .standard) = .ok f ∧ f.outline = e.outline := by
  have built : ∀ t ∈ friendsOfOne, t.isExplicit = false := by decide
  obtain ⟨e, found⟩ : ∃ e, (empty.run .standard friendsOfOne).find? "friends" = some (.expression e) :=
    ⟨_, rfl⟩
  obtain ⟨f, made, _, same, _⟩ := rebuild_eq_ok_of_run built ⟨"friends", found⟩ (.root 9)
  exact ⟨built, e, f, found, made, same⟩

end Session
end EntityQuery
