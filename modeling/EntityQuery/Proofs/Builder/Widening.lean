import EntityQuery.Proofs.Builder.Acceptance
/-!
# `Proofs.Builder.Widening` — rules that say yes more often

Rules may be widened in two ways: more types may stand for others, and more types count as Booleans. No
construction asks either question in order to refuse, or to choose what to make. So whatever is made under
some rules is made under wider ones, and is the same.

That is shown once for each node and once for each method of the builder, by the lemma that says when it
succeeds.

## Contents
* `TypeRules.WidenedBy` — the order of rules; `exact_widenedBy_standard`, `standard_widenedBy_byteAsBoolean`.
* `CarriesOver` — one computation succeeds, with the same result, wherever another does.
* `Expr.carriesOver_mkConstant` and the like — nodes, and what they are made of.
* `Builder.carriesOver_function` and the like — the methods of the builder that check more than the node.
-/

namespace EntityQuery

/-! ## Wider rules -/

namespace TypeRules

/-- **Wider rules.** They say yes where the rules do when asked what may stand for what and what is a Boolean,
    and they answer all other questions as the rules do. -/
structure WidenedBy (rules wider : TypeRules) : Prop where
  promotes : ∀ s t, rules.promotes s t = true → wider.promotes s t = true
  isBoolean : ∀ s, rules.isBoolean s = true → wider.isBoolean s = true
  isPrimitive_boolean : ∀ s, rules.isPrimitive s .boolean = true → wider.isPrimitive s .boolean = true
  isPrimitive : ∀ s kind, kind ≠ .boolean → wider.isPrimitive s kind = rules.isPrimitive s kind
  isScalar : wider.isScalar = rules.isScalar
  isCollection : wider.isCollection = rules.isCollection
  isEntity : wider.isEntity = rules.isEntity
  isReference : wider.isReference = rules.isReference
  isRow : wider.isRow = rules.isRow
  isStructural : wider.isStructural = rules.isStructural
  equals : wider.equals = rules.equals
  isSubtypeOf : wider.isSubtypeOf = rules.isSubtypeOf
  carrier? : wider.carrier? = rules.carrier?
  referenceTarget? : wider.referenceTarget? = rules.referenceTarget?
  element? : wider.element? = rules.element?

/-- Without promotion, a type stands for itself; under the standard rules it still does. -/
theorem exact_widenedBy_standard : exact.WidenedBy standard where
  promotes _ _ h := promotesTo_of_equals h
  isBoolean _ h := h
  isPrimitive_boolean _ h := h
  isPrimitive _ _ _ := rfl
  isScalar := rfl
  isCollection := rfl
  isEntity := rfl
  isReference := rfl
  isRow := rfl
  isStructural := rfl
  equals := rfl
  isSubtypeOf := rfl
  carrier? := rfl
  referenceTarget? := rfl
  element? := rfl

/-- A byte may pass for a Boolean besides what does already. -/
theorem standard_widenedBy_byteAsBoolean : standard.WidenedBy byteAsBoolean where
  promotes _ _ h := h
  isBoolean _ h := Bool.or_eq_true_iff.mpr (.inl h)
  isPrimitive_boolean _ h := Bool.or_eq_true_iff.mpr (.inl h)
  isPrimitive s kind other := by
    have notBoolean : (kind == .boolean) = false := beq_eq_false_iff_ne.mpr other
    show (s.isPrimitive kind || (kind == .boolean && s.isPrimitive .byte)) = s.isPrimitive kind
    rw [notBoolean, Bool.false_and, Bool.or_false]
  isScalar := rfl
  isCollection := rfl
  isEntity := rfl
  isReference := rfl
  isRow := rfl
  isStructural := rfl
  equals := rfl
  isSubtypeOf := rfl
  carrier? := rfl
  referenceTarget? := rfl
  element? := rfl

variable {rules wider : TypeRules}

/-- What covers what is not widened. -/
theorem WidenedBy.covers (wide : rules.WidenedBy wider) : wider.covers = rules.covers := by
  funext expected found
  rw [TypeRules.covers, TypeRules.covers, wide.equals, wide.isSubtypeOf]

/-- Nor is what an end accepts. -/
theorem WidenedBy.accepts (wide : rules.WidenedBy wider) (e : RelationshipEnd) :
    e.accepts wider = e.accepts rules := by
  funext found
  rw [RelationshipEnd.accepts, RelationshipEnd.accepts, wide.equals, wide.isSubtypeOf]

/-- Nor is which operators apply: the only primitive they ask for is a byte string. -/
theorem WidenedBy.comparable (wide : rules.WidenedBy wider) : Expr.comparable wider = Expr.comparable rules := by
  funext operator left right
  have binary : wider.isPrimitive left .binary = rules.isPrimitive left .binary :=
    wide.isPrimitive left .binary (by decide)
  rw [Expr.comparable, Expr.comparable, wide.isScalar, binary, wide.isEntity, wide.isReference]

theorem WidenedBy.eitherPromotes (wide : rules.WidenedBy wider) {left right : EdmShape}
    (h : Expr.eitherPromotes rules left right = true) : Expr.eitherPromotes wider left right = true := by
  rw [Expr.eitherPromotes, Bool.or_eq_true] at h ⊢
  rcases h with h | h
  · exact .inl (wide.promotes _ _ h)
  · exact .inr (wide.promotes _ _ h)

end TypeRules

/-! ## What carries over -/

/-- **Carried over.** Whatever the first computation makes, the second makes. -/
def CarriesOver {ε α : Type} (x y : Except ε α) : Prop := ∀ a, x = .ok a → y = .ok a

section Fallible

variable {ε α β : Type}

theorem carriesOver_refl (x : Except ε α) : CarriesOver x x := fun _ h => h

/-- Two computations in a row carry over when each does. -/
theorem CarriesOver.bind {x y : Except ε α} {f g : α → Except ε β} (first : CarriesOver x y)
    (second : ∀ a, CarriesOver (f a) (g a)) : CarriesOver (x >>= f) (y >>= g) := by
  intro b h
  obtain ⟨a, hx, hf⟩ := bind_eq_ok_iff.mp h
  exact bind_eq_ok_iff.mpr ⟨a, first a hx, second a b hf⟩

end Fallible

/-! ## Nodes -/

section Nodes

variable {rules wider : TypeRules} (wide : rules.WidenedBy wider) {type : TypeUse}
include wide

theorem Expr.carriesOver_mkConstant (value : Literal) :
    CarriesOver (Expr.mkConstant rules type value) (Expr.mkConstant wider type value) := by
  intro e made
  rw [Expr.mkConstant_eq_ok_iff] at made ⊢
  rwa [wide.isScalar, wide.carrier?]

theorem Expr.carriesOver_mkScan (extent : Extent) :
    CarriesOver (Expr.mkScan rules type extent) (Expr.mkScan wider type extent) := by
  intro e made
  rw [Expr.mkScan_eq_ok_iff] at made ⊢
  rwa [wide.element?, wide.equals]

theorem Expr.carriesOver_mkRef (set : EntitySet) (keys : Expr) :
    CarriesOver (Expr.mkRef rules type set keys) (Expr.mkRef wider type set keys) := by
  intro e made
  rw [Expr.mkRef_eq_ok_iff] at made ⊢
  rwa [wide.isReference]

theorem Expr.carriesOver_mkDeref (reference : Expr) :
    CarriesOver (Expr.mkDeref rules type reference) (Expr.mkDeref wider type reference) := by
  intro e made
  rw [Expr.mkDeref_eq_ok_iff] at made ⊢
  rwa [wide.isEntity, wide.isReference]

theorem Expr.carriesOver_mkNewInstance (elements : List Expr) :
    CarriesOver (Expr.mkNewInstance rules type elements) (Expr.mkNewInstance wider type elements) := by
  intro e made
  rw [Expr.mkNewInstance_eq_ok_iff] at made ⊢
  rwa [wide.isCollection]

theorem Expr.carriesOver_mkEntityInstance (elements : List Expr) (related : List Related) :
    CarriesOver (Expr.mkEntityInstance rules type elements related)
      (Expr.mkEntityInstance wider type elements related) := by
  intro e made
  rw [Expr.mkEntityInstance_eq_ok_iff] at made ⊢
  rwa [wide.isEntity, wide.isCollection]

theorem Related.carriesOver_make (alive : Handle → Bool) (source target : RelationshipEnd) (reference : Expr) :
    CarriesOver (Related.make rules alive source target reference)
      (Related.make wider alive source target reference) := by
  intro r made
  rw [Related.make_eq_ok_iff] at made ⊢
  rwa [wide.referenceTarget?, wide.accepts]

theorem Expr.carriesOver_mkComparison (h : Handle) (operator : Comparison) (left right : Expr) :
    CarriesOver (Expr.mkComparison rules h operator left right)
      (Expr.mkComparison wider h operator left right) := by
  intro e made
  obtain ⟨comparable, promotes, rfl⟩ := Expr.mkComparison_eq_ok_iff.mp made
  rw [← wide.comparable] at comparable
  exact Expr.mkComparison_eq_ok_iff.mpr ⟨comparable, wide.eitherPromotes promotes, rfl⟩

theorem Expr.carriesOver_mkAnd (h : Handle) (left right : Expr) :
    CarriesOver (Expr.mkAnd rules h left right) (Expr.mkAnd wider h left right) := by
  intro e made
  obtain ⟨hl, hr, rfl⟩ := Expr.mkAnd_eq_ok_iff.mp made
  exact Expr.mkAnd_eq_ok_iff.mpr ⟨wide.isBoolean _ hl, wide.isBoolean _ hr, rfl⟩

theorem Expr.carriesOver_mkOr (h : Handle) (left right : Expr) :
    CarriesOver (Expr.mkOr rules h left right) (Expr.mkOr wider h left right) := by
  intro e made
  obtain ⟨hl, hr, rfl⟩ := Expr.mkOr_eq_ok_iff.mp made
  exact Expr.mkOr_eq_ok_iff.mpr ⟨wide.isBoolean _ hl, wide.isBoolean _ hr, rfl⟩

theorem Expr.carriesOver_mkNot (h : Handle) (argument : Expr) :
    CarriesOver (Expr.mkNot rules h argument) (Expr.mkNot wider h argument) := by
  intro e made
  obtain ⟨condition, rfl⟩ := Expr.mkNot_eq_ok_iff.mp made
  exact Expr.mkNot_eq_ok_iff.mpr ⟨wide.isBoolean _ condition, rfl⟩

/-- The test for null refuses collections, and what is a collection is not widened. -/
theorem Expr.carriesOver_mkIsNull (h : Handle) (argument : Expr) :
    CarriesOver (Expr.mkIsNull rules h argument) (Expr.mkIsNull wider h argument) := by
  intro e made
  rw [Expr.mkIsNull_eq_ok_iff] at made ⊢
  rwa [wide.isCollection]

theorem Binding.carriesOver_make (source : Expr) (name : String) :
    CarriesOver (Binding.make rules source name) (Binding.make wider source name) := by
  intro b made
  rw [Binding.make_eq_ok_iff] at made ⊢
  rwa [wide.element?]

theorem Expr.carriesOver_mkFilter (input : Binding) (predicate : Expr) :
    CarriesOver (Expr.mkFilter rules input predicate) (Expr.mkFilter wider input predicate) := by
  intro e made
  obtain ⟨condition, rfl⟩ := Expr.mkFilter_eq_ok_iff.mp made
  exact Expr.mkFilter_eq_ok_iff.mpr ⟨wide.isBoolean _ condition, rfl⟩

/-! ## Operands at declared places -/

theorem Fits.widened {types : List TypeUse} {operands : List Expr} (fits : Fits rules types operands) :
    Fits wider types operands :=
  fits.imp fun _ _ h => wide.promotes _ _ h

theorem ElementsFit.widened {shape : EdmShape} {elements : List Expr} (fit : ElementsFit rules shape elements) :
    ElementsFit wider shape elements := by
  cases shape with
  | entity _ | complex _ | row _ => exact Fits.widened wide fit
  | collection element => exact fun e he => wide.promotes _ _ (fit e he)
  | primitive _ | enumeration _ | relationship _ | reference _ => exact fit

end Nodes

/-! ## The builder -/

namespace Builder

/-- The builder at the same place, under other rules. -/
def under (b : Builder) (rules : TypeRules) : Builder := { b with rules := rules }

variable {b : Builder} {wider : TypeRules} (wide : b.rules.WidenedBy wider)
include wide

theorem carriesOver_navigationProperty (object : Expr) (n : NavigationProperty) :
    CarriesOver (b.navigationProperty object n) ((b.under wider).navigationProperty object n) := by
  intro e made
  obtain ⟨covered, rfl⟩ := navigationProperty_eq_ok_iff.mp made
  rw [← wide.covers] at covered
  exact navigationProperty_eq_ok_iff.mpr ⟨covered, rfl⟩

theorem carriesOver_navigate (source : Expr) (fromEnd toEnd : RelationshipEnd) :
    CarriesOver (b.navigate source fromEnd toEnd) ((b.under wider).navigate source fromEnd toEnd) := by
  intro e made
  obtain ⟨alive, covered, declared, rfl⟩ := navigate_eq_ok_iff.mp made
  rw [← wide.covers] at covered
  exact navigate_eq_ok_iff.mpr ⟨alive, covered, declared, rfl⟩

theorem carriesOver_function (f : FunctionDecl) (arguments : List Expr) :
    CarriesOver (b.function f arguments) ((b.under wider).function f arguments) := by
  intro e made
  obtain ⟨returned, declared, fits, rfl⟩ := function_eq_ok_iff.mp made
  exact function_eq_ok_iff.mpr ⟨returned, declared, fits.widened wide, rfl⟩

theorem carriesOver_invoke (l : Lambda) (arguments : List Expr) :
    CarriesOver (b.invoke l arguments) ((b.under wider).invoke l arguments) := by
  intro e made
  obtain ⟨fits, rfl⟩ := invoke_eq_ok_iff.mp made
  exact invoke_eq_ok_iff.mpr ⟨fits.widened wide, rfl⟩

theorem carriesOver_newRow (columns : List (String × Expr)) :
    CarriesOver (b.newRow columns) ((b.under wider).newRow columns) :=
  Expr.carriesOver_mkNewInstance wide _

theorem carriesOver_newInstance (type : TypeUse) (elements : List Expr) :
    CarriesOver (b.newInstance type elements) ((b.under wider).newInstance type elements) := by
  intro e made
  obtain ⟨elementsFit, nonempty, rfl⟩ := newInstance_eq_ok_iff.mp made
  rw [← wide.isCollection] at nonempty
  exact newInstance_eq_ok_iff.mpr ⟨elementsFit.widened wide, nonempty, rfl⟩

theorem carriesOver_newCollection (elements : List Expr) :
    CarriesOver (b.newCollection elements) ((b.under wider).newCollection elements) := by
  cases elements with
  | nil => exact carriesOver_refl _
  | cons first rest => exact carriesOver_newInstance wide _ _

theorem carriesOver_newEntity (entity : Entity) (elements : List Expr) (related : List Related) :
    CarriesOver (b.newEntity entity elements related) ((b.under wider).newEntity entity elements related) := by
  intro e made
  obtain ⟨elementsFit, isEntity, nonempty, rfl⟩ := newEntity_eq_ok_iff.mp made
  rw [← wide.isEntity] at isEntity
  rw [← wide.isCollection] at nonempty
  exact newEntity_eq_ok_iff.mpr ⟨elementsFit.widened wide, isEntity, nonempty, rfl⟩

theorem carriesOver_ref (set : EntitySet) (keys : List Expr) :
    CarriesOver (b.ref set keys) ((b.under wider).ref set keys) := by
  intro e made
  obtain ⟨properties, found, fits, nonempty, reference, rfl⟩ := ref_eq_ok_iff.mp made
  rw [← wide.isCollection] at nonempty
  rw [← wide.isReference] at reference
  exact ref_eq_ok_iff.mpr ⟨properties, found, fits.widened wide, nonempty, reference, rfl⟩

theorem carriesOver_deref (reference : Expr) :
    CarriesOver (b.deref reference) ((b.under wider).deref reference) := by
  intro e made
  obtain ⟨entity, target, isEntity, isReference, rfl⟩ := deref_eq_ok_iff.mp made
  rw [← wide.referenceTarget?] at target
  rw [← wide.isEntity] at isEntity
  rw [← wide.isReference] at isReference
  exact deref_eq_ok_iff.mpr ⟨entity, target, isEntity, isReference, rfl⟩

end Builder
end EntityQuery
