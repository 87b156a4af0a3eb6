import EntityQuery.Proofs.Command.Acceptance
import EntityQuery.Proofs.Types.Promotion
/-!
# `Proofs.Builder.Substitution` — what may stand in the place of an operand

Promotion is a partial order over consistent metadata, so an operand that is accepted at a place can be
replaced by any operand whose type promotes to its own: the new type promotes to the declared one by way of
the old. This holds at every place that is checked, whatever call checks it.

## Contents
* `CheckedCall` — the calls that check operands against declared types; `declared`, `Accepts`.
* `fits_of_replaced` — replacing operands place by place.
* `promotesTo_order_and_substitution` — the partial order, and substitution in every call.
-/

namespace EntityQuery

/-! ## Calls that check operands -/

/-- A call that checks its operands against declared types, all but its operands. -/
inductive CheckedCall where
  | function (function : FunctionDecl)
  | invoke (lambda : Lambda)
  | newInstance (type : TypeUse)
  | newEntity (entity : Entity) (related : List Related)
  /-- The elements after the first, which gives the element type. -/
  | newCollection (first : Expr)
  | ref (set : EntitySet)
  /-- The value for the property of a name in a command on elements of a type. -/
  | setClause (type : TypeUse) (name : String)

/-- The types that an instance of a shape declares for its elements. -/
def Shape.elementTypes : EdmShape → List TypeUse
  | entity e => e.properties.map (·.type)
  | complex c => c.properties.map (·.type)
  | row columns => columns.map (·.type)
  | collection element => [element]
  | _ => []

namespace CheckedCall

/-- The types declared at the places of the operands. -/
def declared : CheckedCall → List TypeUse
  | function f => f.parameters.map (·.type)
  | invoke l => l.formals.map (·.type)
  | newInstance type => type.shape.elementTypes
  | newEntity e _ => Shape.elementTypes (.entity e)
  | newCollection first => [first.type]
  | ref set => (set.entity.keyMembers.filterMap set.entity.property?).map (·.type)
  | setClause type name => (type.shape.structuralProperty? name).toList.map (·.type)

/-- Whether the call succeeds on the operands. -/
def Accepts (b : Builder) : CheckedCall → List Expr → Prop
  | function f, operands => ∃ e, b.function f operands = .ok e
  | invoke l, operands => ∃ e, b.invoke l operands = .ok e
  | newInstance type, operands => ∃ e, b.newInstance type operands = .ok e
  | newEntity entity related, operands => ∃ e, b.newEntity entity operands related = .ok e
  | newCollection first, operands => ∃ e, b.newCollection (first :: operands) = .ok e
  | ref set, operands => ∃ e, b.ref set operands = .ok e
  | setClause type name, operands =>
      ∃ value clause, operands = [value] ∧ SetClause.make b.rules type name value = .ok clause

end CheckedCall

/-! ## Replacing operands -/

/-- Each replacement is of a type that promotes to that of the operand in its place. -/
def Replaces (replacements operands : List Expr) : Prop :=
  List.Forall₂ (fun r o => r.type.shape.promotesTo o.type.shape = true) replacements operands

/-- The shapes that occur in a call: those declared, those of the operands and those of the replacements. -/
def shapesOf (declared : List TypeUse) (operands replacements : List Expr) : List EdmShape :=
  declared.map (·.shape) ++ (operands.map (·.type.shape) ++ replacements.map (·.type.shape))

section Replacing

variable {declared : List TypeUse} {operands replacements : List Expr}

/-- A replacement may stand wherever its operand may. -/
theorem promotesTo_of_replaced (consistent : Consistent (shapesOf declared operands replacements))
    {t : TypeUse} (ht : t ∈ declared) {o r : Expr} (ho : o ∈ operands) (hr : r ∈ replacements)
    (replaced : r.type.shape.promotesTo o.type.shape = true)
    (accepted : o.type.shape.promotesTo t.shape = true) : r.type.shape.promotesTo t.shape = true := by
  have hr' : r.type.shape ∈ shapesOf declared operands replacements :=
    List.mem_append_right _ (List.mem_append_right _ (List.mem_map_of_mem hr))
  have ho' : o.type.shape ∈ shapesOf declared operands replacements :=
    List.mem_append_right _ (List.mem_append_left _ (List.mem_map_of_mem ho))
  have ht' : t.shape ∈ shapesOf declared operands replacements :=
    List.mem_append_left _ (List.mem_map_of_mem ht)
  exact Shape.promotesTo_trans consistent hr' ho' ht' replaced accepted

/-- **Place by place.** Operands that fit declared places can be replaced. -/
theorem fits_of_replaced (consistent : Consistent (shapesOf declared operands replacements))
    (replaced : Replaces replacements operands) (fit : Fits .standard declared operands) :
    Fits .standard declared replacements := by
  refine forall₂_trans_of_mem ?_ fit (List.Forall₂.flip replaced)
  intro t ht o ho r hr accepted promotes
  exact promotesTo_of_replaced consistent ht ho hr promotes accepted

/-- Elements of a collection can be replaced. -/
theorem each_of_replaced {element : TypeUse} (consistent : Consistent (shapesOf [element] operands replacements))
    (replaced : Replaces replacements operands)
    (each : ∀ o ∈ operands, o.type.shape.promotesTo element.shape = true) :
    ∀ r ∈ replacements, r.type.shape.promotesTo element.shape = true := by
  intro r hr
  obtain ⟨o, ho, promotes⟩ := exists_mem_of_forall₂ replaced r hr
  exact promotesTo_of_replaced consistent List.mem_cons_self ho hr promotes (each o ho)

/-- Elements that make an instance can be replaced. -/
theorem elementsFit_of_replaced {shape : EdmShape}
    (consistent : Consistent (shapesOf shape.elementTypes operands replacements))
    (replaced : Replaces replacements operands) (fit : ElementsFit .standard shape operands) :
    ElementsFit .standard shape replacements := by
  cases shape with
  | entity _ | complex _ | row _ => exact fits_of_replaced consistent replaced fit
  | collection element => exact each_of_replaced consistent replaced fit
  | primitive _ | enumeration _ | relationship _ | reference _ => exact fit

/-- There are replacements when there are operands. -/
theorem ne_nil_of_replaced (replaced : Replaces replacements operands) (h : operands ≠ []) :
    replacements ≠ [] := by
  rintro rfl
  exact h (List.forall₂_nil_left_iff.mp replaced)

end Replacing

/-! ## Replacing operands in calls -/

/-- What is found one for one is what is found altogether. -/
theorem filterMap_eq_of_forall₂ {α β : Type} {f : α → Option β} {as : List α} {bs : List β}
    (h : List.Forall₂ (fun a b => f a = some b) as bs) : as.filterMap f = bs := by
  induction h with
  | nil => rfl
  | cons first _ ih => rw [List.filterMap_cons_some first, ih]

/-- **Substitution.** Under the standard rules and over consistent metadata, a call that accepts some operands
    also accepts operands whose types promote to theirs. -/
theorem CheckedCall.accepts_of_replaced {b : Builder} (rules : b.rules = .standard) {call : CheckedCall}
    {operands replacements : List Expr}
    (consistent : Consistent (shapesOf call.declared operands replacements))
    (replaced : Replaces replacements operands) (accepted : call.Accepts b operands) :
    call.Accepts b replacements := by
  obtain ⟨_, alive, here⟩ := b
  obtain rfl := rules
  cases call with
  | function f =>
    obtain ⟨e, made⟩ := accepted
    obtain ⟨returned, declared, fit, _⟩ := Builder.function_eq_ok_iff.mp made
    have fit' := fits_of_replaced consistent replaced fit
    exact ⟨_, Builder.function_eq_ok_iff.mpr ⟨returned, declared, fit', rfl⟩⟩
  | invoke l =>
    obtain ⟨e, made⟩ := accepted
    obtain ⟨fit, _⟩ := Builder.invoke_eq_ok_iff.mp made
    exact ⟨_, Builder.invoke_eq_ok_iff.mpr ⟨fits_of_replaced consistent replaced fit, rfl⟩⟩
  | newInstance type =>
    obtain ⟨e, made⟩ := accepted
    obtain ⟨fit, nonempty, _⟩ := Builder.newInstance_eq_ok_iff.mp made
    refine ⟨_, Builder.newInstance_eq_ok_iff.mpr ⟨elementsFit_of_replaced consistent replaced fit, ?_, rfl⟩⟩
    exact nonempty.imp_left (ne_nil_of_replaced replaced)
  | newEntity entity related =>
    obtain ⟨e, made⟩ := accepted
    obtain ⟨fit, isEntity, nonempty, _⟩ := Builder.newEntity_eq_ok_iff.mp made
    have consistent : Consistent (shapesOf (Shape.elementTypes (.entity entity)) operands replacements) := consistent
    have fit' := elementsFit_of_replaced consistent replaced fit
    refine ⟨_, Builder.newEntity_eq_ok_iff.mpr ⟨fit', isEntity, ?_, rfl⟩⟩
    exact nonempty.imp_left (ne_nil_of_replaced replaced)
  | newCollection first =>
    obtain ⟨e, made⟩ := accepted
    obtain ⟨_, _, same, each, _⟩ := Builder.newCollection_eq_ok_iff.mp made
    obtain ⟨rfl, rfl⟩ := List.cons.inj same
    obtain ⟨self, others⟩ := List.forall_mem_cons.mp each
    have each' : ∀ x ∈ first :: replacements, x.type.shape.promotesTo first.type.shape = true :=
      List.forall_mem_cons.mpr ⟨self, each_of_replaced consistent replaced others⟩
    exact ⟨_, Builder.newCollection_eq_ok_iff.mpr ⟨first, replacements, rfl, each', rfl⟩⟩
  | ref set =>
    obtain ⟨e, made⟩ := accepted
    obtain ⟨properties, found, fit, nonempty, reference, _⟩ := Builder.ref_eq_ok_iff.mp made
    have all : set.entity.keyMembers.filterMap set.entity.property? = properties := filterMap_eq_of_forall₂ found
    rw [CheckedCall.declared, all] at consistent
    have fit' := fits_of_replaced consistent replaced fit
    refine ⟨_, Builder.ref_eq_ok_iff.mpr ⟨properties, found, fit', .inl ?_, reference, rfl⟩⟩
    -- a row is no collection, so there were keys
    exact ne_nil_of_replaced replaced (nonempty.resolve_right (by simp [TypeRules.standard, Builder.rowShape]))
  | setClause type name =>
    obtain ⟨value, clause, rfl, made⟩ := accepted
    obtain ⟨found, promotes, _⟩ := SetClause.make_eq_ok_iff.mp made
    obtain ⟨r, _, first, rest, rfl⟩ := List.forall₂_cons_right_iff.mp replaced
    obtain rfl := List.forall₂_nil_right_iff.mp rest
    have place : clause.property.type ∈ (CheckedCall.setClause type name).declared := by
      rw [CheckedCall.declared, found]
      exact List.mem_cons_self
    have fits := promotesTo_of_replaced consistent place List.mem_cons_self List.mem_cons_self first promotes
    exact ⟨r, ⟨clause.property, r⟩, rfl, SetClause.make_eq_ok_iff.mpr ⟨found, fits, rfl⟩⟩

/-- **Promotion is a partial order, and operands can be replaced.** Over consistent metadata promotion is
    reflexive and transitive, two types promote to each other exactly when they are one type, and every call
    that accepts operands of some types accepts operands of types that promote to these. -/
theorem promotesTo_order_and_substitution :
    (∀ a b c : EdmShape, Consistent [a, b, c] →
      a.promotesTo a = true ∧
        (a.promotesTo b = true → b.promotesTo c = true → a.promotesTo c = true) ∧
        ((a.promotesTo b = true ∧ b.promotesTo a = true) ↔ a.equals b = true)) ∧
    ∀ (b : Builder) (call : CheckedCall) (operands replacements : List Expr), b.rules = .standard →
      Consistent (shapesOf call.declared operands replacements) →
      List.Forall₂ (fun r o => r.type.shape.promotesTo o.type.shape = true) replacements operands →
      call.Accepts b operands → call.Accepts b replacements := by
  constructor
  · intro a b c consistent
    have ha : a ∈ [a, b, c] := List.mem_cons_self
    have hb : b ∈ [a, b, c] := List.mem_cons_of_mem _ List.mem_cons_self
    have hc : c ∈ [a, b, c] := List.mem_cons_of_mem _ (List.mem_cons_of_mem _ List.mem_cons_self)
    refine ⟨a.promotesTo_refl, ?_, Shape.promotesTo_and_promotesTo_iff consistent ha hb⟩
    exact Shape.promotesTo_trans consistent ha hb hc
  · intro b call operands replacements rules consistent replaced accepted
    exact call.accepts_of_replaced rules consistent replaced accepted

/-- A being, a person who is one, and a student who is a person. -/
def being : Entity :=
  .root (.declare TypeUse.kept ⟨"Town", "Being"⟩ [⟨⟨"Age", ⟨.root 0, .primitive .int32⟩⟩, true⟩])
def person : Entity := .derive (.declare TypeUse.kept ⟨"Town", "Person"⟩ []) being
def student : Entity := .derive (.declare TypeUse.kept ⟨"Town", "Student"⟩ []) person

theorem promotesTo_order_students :
    Consistent [.reference student, .reference person, .reference being] ∧
      Shape.promotesTo (.reference student) (.reference being) = true ∧
      Shape.equals (.reference student) (.reference person) = false ∧
      (CheckedCall.newInstance ⟨.root 1, .collection ⟨.root 2, .reference being⟩⟩).Accepts
        ⟨.standard, fun _ => false, .root 3⟩ [⟨⟨.root 4, .reference student⟩, .null⟩] := by
  obtain ⟨order, substitution⟩ := promotesTo_order_and_substitution
  have consistent : Consistent [.reference student, .reference person, .reference being] := by decide
  obtain ⟨_, transitive, _⟩ := order _ _ _ consistent
  refine ⟨consistent, transitive rfl rfl, rfl, ?_⟩
  -- a person would do, so a student does
  refine substitution _ _ [⟨⟨.root 4, .reference person⟩, .null⟩] _ rfl (by decide) ?_ ⟨_, rfl⟩
  exact .cons rfl .nil

end EntityQuery
