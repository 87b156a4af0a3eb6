import EntityQuery.Builder.Basic
import EntityQuery.Proofs.Expr.Acceptance
/-!
# `Proofs.Builder.Acceptance` — when the builder accepts, and what it makes

One lemma for each method of the builder, under any type rules: the method succeeds exactly when the stated
conditions hold, and its result is the stated one. The conditions are those on operands and model data
alone; what the node itself checks is either among them or holds of the type that the builder derives.

## Contents
* `Fits` — operands that may stand, one for one, at declared places; `requirePositions_eq_ok_iff_fits`.
* `ElementsFit` — elements that can make an instance of a type.
* `Builder.constant_eq_ok_iff` … `Builder.filter_eq_ok_iff` — one for each method.
-/

namespace EntityQuery

/-! ## Operands at declared places -/

/-- **One operand for each place,** each of a type that may stand for the type declared there. -/
def Fits (rules : TypeRules) (types : List TypeUse) (operands : List Expr) : Prop :=
  List.Forall₂ (fun t e => rules.promotes e.type.shape t.shape = true) types operands

/-- The elements that make an instance of a shape: one for each property of a structural type, inherited
    properties first; any number for a collection, each of which may stand for an element. -/
def ElementsFit (rules : TypeRules) : EdmShape → List Expr → Prop
  | .entity e, elements => Fits rules (e.properties.map (·.type)) elements
  | .complex c, elements => Fits rules (c.properties.map (·.type)) elements
  | .row columns, elements => Fits rules (columns.map (·.type)) elements
  | .collection t, elements => ∀ e ∈ elements, rules.promotes e.type.shape t.shape = true
  | _, _ => False

section Operands

variable {rules : TypeRules} {blamed : Argument}

theorem requireAssignable_eq_ok_iff {expected : TypeUse} {operand : Expr} :
    requireAssignable rules blamed expected operand = .ok () ↔
      rules.promotes operand.type.shape expected.shape = true := by
  rw [requireAssignable, require_eq_ok_iff]

theorem requirePositions_eq_ok_iff_fits {types : List TypeUse} {operands : List Expr} :
    requirePositions rules blamed types operands = .ok () ↔ Fits rules types operands := by
  rw [requirePositions_eq_ok_iff, Fits, List.forall₂_iff_zip]
  simp only [Prod.forall]

theorem requireEach_eq_ok_iff_fits {types : List TypeUse} {operands : List Expr}
    (count : types.length = operands.length) :
    requireEach rules blamed types operands = .ok () ↔ Fits rules types operands := by
  rw [← @requirePositions_eq_ok_iff_fits rules blamed, requirePositions_eq_ok_iff,
    requireEach_eq_ok_iff]
  exact (and_iff_right count).symm

/-- Each member of a list is checked in turn. -/
theorem forM_requireAssignable_eq_ok_iff {expected : TypeUse} {operands : List Expr} :
    operands.forM (requireAssignable rules blamed expected) = .ok () ↔
      ∀ e ∈ operands, rules.promotes e.type.shape expected.shape = true := by
  induction operands with
  | nil => simp [pure, Except.pure]
  | cons e es ih =>
    show (requireAssignable rules blamed expected e >>= fun _ => es.forM _) = .ok () ↔ _
    rw [bind_eq_ok_iff, List.forall_mem_cons, ← ih]
    constructor
    · rintro ⟨⟨⟩, first, rest⟩
      exact ⟨requireAssignable_eq_ok_iff.mp first, rest⟩
    · rintro ⟨first, rest⟩
      exact ⟨(), requireAssignable_eq_ok_iff.mpr first, rest⟩

end Operands

namespace Builder

variable {b : Builder} {e : Expr}

/-! ## Leaves -/

theorem constant_eq_ok_iff {value : Literal} :
    b.constant value = .ok e ↔
      b.rules.isScalar (.primitive value.kind) = true ∧
        b.rules.carrier? (.primitive value.kind) = some value.kind ∧
        e = ⟨⟨b.here, .primitive value.kind⟩, .constant value⟩ :=
  Expr.mkConstant_eq_ok_iff

theorem constantOf_eq_ok_iff {type : TypeUse} {value : Literal} :
    b.constantOf type value = .ok e ↔
      b.rules.isScalar type.shape = true ∧ b.rules.carrier? type.shape = some value.kind ∧
        e = ⟨type, .constant value⟩ :=
  Expr.mkConstant_eq_ok_iff

theorem variableReference_eq_ok_iff {name : String} {type : TypeUse} :
    b.variableReference name type = .ok e ↔ name ≠ "" ∧ e = ⟨type, .variableReference name⟩ := by
  rw [variableReference, bind_eq_ok_iff]
  constructor
  · rintro ⟨v, hv, h⟩
    obtain ⟨named, rfl⟩ := Variable.make_eq_ok_iff.mp hv
    exact ⟨named, pure_eq_ok_iff.mp h⟩
  · rintro ⟨named, rfl⟩
    exact ⟨_, Variable.make_eq_ok_iff.mpr ⟨named, rfl⟩, rfl⟩

theorem parameterReference_eq_ok_iff {name : String} {type : TypeUse} :
    b.parameterReference name type = .ok e ↔
      isParameterName name = true ∧ e = ⟨type, .parameterReference name⟩ :=
  Expr.mkParameter_eq_ok_iff

/-! ## Members and navigation -/

theorem property_eq_ok_iff {object : Expr} {name : String} :
    b.property object name = .ok e ↔
      ∃ member type, object.type.shape.member? name = some member ∧ member.type? = some type ∧
        e = ⟨type, .property member object⟩ := by
  unfold property
  cases hm : object.type.shape.member? name with
  | none => simp
  | some member =>
    cases ht : member.type? with
    | none => simp [ht]
    | some type =>
      -- a member that was looked up can be read, so the node has nothing to object to
      have readable : member.isReadable = true := Shape.isReadable_of_member?_eq_some hm
      simp only [ht, Expr.mkProperty_eq_ok_iff, readable, true_and, Option.some.injEq]
      constructor
      · rintro rfl
        exact ⟨member, type, rfl, ht, rfl⟩
      · rintro ⟨_, _, rfl, ht', rfl⟩
        rw [ht, Option.some.injEq] at ht'
        rw [ht']

theorem navigationProperty_eq_ok_iff {object : Expr} {n : NavigationProperty} :
    b.navigationProperty object n = .ok e ↔
      b.rules.covers (.entity n.fromEnd.entity) object.type.shape = true ∧
        e = ⟨n.type, .property (.navigation n) object⟩ := by
  have readable : (Member.navigation n).isReadable = true := rfl
  rw [navigationProperty, require_bind_eq_ok_iff, Expr.mkProperty_eq_ok_iff, and_iff_right readable]

theorem navigate_eq_ok_iff {source : Expr} {fromEnd toEnd : RelationshipEnd} :
    b.navigate source fromEnd toEnd = .ok e ↔
      b.alive fromEnd.relationship.id = true ∧
        b.rules.covers (.reference fromEnd.entity) source.type.shape = true ∧
        toEnd.isDeclaredBy fromEnd.relationship = true ∧
        e = ⟨b.navigationType toEnd, .navigation fromEnd.relationship fromEnd toEnd source⟩ := by
  unfold navigate RelationshipEnd.declaring?
  by_cases alive : b.alive fromEnd.relationship.id = true
  · rw [if_pos alive]
    simp only [require_bind_eq_ok_iff, Expr.mkNavigation_eq_ok_iff, alive,
      RelationshipEnd.isDeclaredBy_self, true_and]
  · rw [if_neg alive]
    simp [alive]

/-! ## Functions and lambdas -/

theorem function_eq_ok_iff {f : FunctionDecl} {arguments : List Expr} :
    b.function f arguments = .ok e ↔
      ∃ returned, f.returnType? = some returned ∧
        Fits b.rules (f.parameters.map (·.type)) arguments ∧ e = ⟨returned, .function f arguments⟩ := by
  rw [function, bind_eq_ok_iff]
  constructor
  · rintro ⟨returned, hr, h⟩
    obtain ⟨⟨⟩, positions, h⟩ := bind_eq_ok_iff.mp h
    obtain ⟨_, _, _, _, rfl⟩ := Expr.mkFunction_eq_ok_iff.mp h
    exact ⟨returned, FunctionDecl.returnType_eq_ok_iff.mp hr, requirePositions_eq_ok_iff_fits.mp positions, rfl⟩
  · rintro ⟨returned, hr, fits, rfl⟩
    have count : f.parameters.length = arguments.length := by
      simpa using List.Forall₂.length_eq fits
    refine ⟨returned, FunctionDecl.returnType_eq_ok_iff.mpr hr, bind_eq_ok_iff.mpr ⟨(), ?_, ?_⟩⟩
    · exact requirePositions_eq_ok_iff_fits.mpr fits
    · exact Expr.mkFunction_eq_ok_iff.mpr ⟨returned, hr, rfl, count, rfl⟩

/-- Variables are made for all formals when each has a name. -/
theorem mapM_variable_eq_ok_iff {formals : List (String × TypeUse)} {vs : List Variable} :
    (formals.mapM fun v => Variable.make v.1 v.2) = .ok vs ↔
      (∀ v ∈ formals, v.1 ≠ "") ∧ vs = formals.map fun v => ⟨v.1, v.2⟩ := by
  rw [mapM_eq_ok_iff]
  simp only [Variable.make_eq_ok_iff]
  induction formals generalizing vs with
  | nil => simp
  | cons v formals ih =>
    rw [List.forall₂_cons_left_iff, List.forall_mem_cons, List.map_cons]
    constructor
    · rintro ⟨w, ws, ⟨named, rfl⟩, rest, rfl⟩
      obtain ⟨all, rfl⟩ := ih.mp rest
      exact ⟨⟨named, all⟩, rfl⟩
    · rintro ⟨⟨named, all⟩, rfl⟩
      exact ⟨_, _, ⟨named, rfl⟩, ih.mpr ⟨all, rfl⟩, rfl⟩

theorem lambda_eq_ok_iff {formals : List (String × TypeUse)} {body : Expr} {l : Lambda} :
    b.lambda formals body = .ok l ↔
      (∀ v ∈ formals, v.1 ≠ "") ∧ (formals.map (·.1)).Nodup ∧
        l = ⟨formals.map fun v => ⟨v.1, v.2⟩, body⟩ := by
  rw [lambda, bind_eq_ok_iff]
  constructor
  · rintro ⟨vs, hvs, h⟩
    obtain ⟨named, rfl⟩ := mapM_variable_eq_ok_iff.mp hvs
    obtain ⟨distinct, rfl⟩ := Lambda.make_eq_ok_iff.mp h
    rw [List.map_map] at distinct
    exact ⟨named, distinct, rfl⟩
  · rintro ⟨named, distinct, rfl⟩
    refine ⟨_, mapM_variable_eq_ok_iff.mpr ⟨named, rfl⟩, Lambda.make_eq_ok_iff.mpr ⟨?_, rfl⟩⟩
    rw [List.map_map]
    exact distinct

theorem invoke_eq_ok_iff {l : Lambda} {arguments : List Expr} :
    b.invoke l arguments = .ok e ↔
      Fits b.rules (l.formals.map (·.type)) arguments ∧ e = ⟨l.body.type, .lambda l arguments⟩ := by
  rw [invoke, bind_eq_ok_iff]
  constructor
  · rintro ⟨⟨⟩, positions, h⟩
    obtain ⟨_, _, rfl⟩ := Expr.mkInvocation_eq_ok_iff.mp h
    exact ⟨requirePositions_eq_ok_iff_fits.mp positions, rfl⟩
  · rintro ⟨fits, rfl⟩
    have count : l.formals.length = arguments.length := by
      simpa using List.Forall₂.length_eq fits
    exact ⟨(), requirePositions_eq_ok_iff_fits.mpr fits,
      Expr.mkInvocation_eq_ok_iff.mpr ⟨rfl, count, rfl⟩⟩

/-! ## Instances -/

/-- The type of a row made of named columns. -/
def rowShape (columns : List (String × Expr)) : EdmShape := .row (columns.map fun c => ⟨c.1, c.2.type⟩)

theorem newRow_eq_ok_iff {columns : List (String × Expr)} :
    b.newRow columns = .ok e ↔
      (columns ≠ [] ∨ b.rules.isCollection (rowShape columns) = true) ∧
        e = ⟨⟨b.here, rowShape columns⟩, .newInstance (columns.map (·.2)) []⟩ := by
  rw [newRow, Expr.mkNewInstance_eq_ok_iff, Ne, List.map_eq_nil_iff]
  exact Iff.rfl

theorem requireInstance_eq_ok_iff {type : TypeUse} {elements : List Expr} :
    b.requireInstance type elements = .ok () ↔ ElementsFit b.rules type.shape elements := by
  unfold requireInstance ElementsFit
  cases type.shape with
  | entity _ | complex _ | row _ => exact requirePositions_eq_ok_iff_fits
  | collection t => exact forM_requireAssignable_eq_ok_iff
  | primitive _ | enumeration _ | relationship _ | reference _ => simp

theorem newInstance_eq_ok_iff {type : TypeUse} {elements : List Expr} :
    b.newInstance type elements = .ok e ↔
      ElementsFit b.rules type.shape elements ∧
        (elements ≠ [] ∨ b.rules.isCollection type.shape = true) ∧
        e = ⟨type, .newInstance elements []⟩ := by
  rw [newInstance, bind_eq_ok_iff, ← requireInstance_eq_ok_iff]
  constructor
  · rintro ⟨⟨⟩, elementsFit, h⟩
    exact ⟨elementsFit, Expr.mkNewInstance_eq_ok_iff.mp h⟩
  · rintro ⟨elementsFit, h⟩
    exact ⟨(), elementsFit, Expr.mkNewInstance_eq_ok_iff.mpr h⟩

theorem newCollection_eq_ok_iff {elements : List Expr} :
    b.newCollection elements = .ok e ↔
      ∃ first rest, elements = first :: rest ∧
        (∀ x ∈ elements, b.rules.promotes x.type.shape first.type.shape = true) ∧
        e = ⟨⟨b.here, .collection first.type⟩, .newInstance elements []⟩ := by
  cases elements with
  | nil => simp [newCollection]
  | cons first rest =>
    rw [newCollection, newInstance_eq_ok_iff]
    constructor
    · rintro ⟨elementsFit, _, rfl⟩
      exact ⟨first, rest, rfl, elementsFit, rfl⟩
    · rintro ⟨_, _, same, elementsFit, rfl⟩
      obtain ⟨rfl, rfl⟩ := List.cons.inj same
      exact ⟨elementsFit, .inl (List.cons_ne_nil _ _), rfl⟩

theorem newEmptyCollection_eq_ok_iff {element : TypeUse} :
    b.newEmptyCollection element = .ok e ↔
      b.rules.isCollection (.collection element) = true ∧
        e = ⟨⟨b.here, .collection element⟩, .newInstance [] []⟩ := by
  rw [newEmptyCollection, Expr.mkNewInstance_eq_ok_iff]
  simp

theorem newEntity_eq_ok_iff {entity : Entity} {elements : List Expr} {related : List Related} :
    b.newEntity entity elements related = .ok e ↔
      ElementsFit b.rules (.entity entity) elements ∧ b.rules.isEntity (.entity entity) = true ∧
        (elements ≠ [] ∨ b.rules.isCollection (.entity entity) = true) ∧
        e = ⟨⟨b.here, .entity entity⟩, .newInstance elements related⟩ := by
  rw [newEntity, bind_eq_ok_iff]
  constructor
  · rintro ⟨⟨⟩, elementsFit, h⟩
    exact ⟨requireInstance_eq_ok_iff.mp elementsFit, Expr.mkEntityInstance_eq_ok_iff.mp h⟩
  · rintro ⟨elementsFit, h⟩
    exact ⟨(), requireInstance_eq_ok_iff.mpr elementsFit, Expr.mkEntityInstance_eq_ok_iff.mpr h⟩

theorem related_eq_ok_iff {source target : RelationshipEnd} {reference : Expr} {r : Related} :
    b.related source target reference = .ok r ↔
      source.sameRelationship target = true ∧ source.sameEnd target = false ∧ target.isAtMostOne = true ∧
        (∃ found, b.rules.referenceTarget? reference.type.shape = some found ∧
          target.accepts b.rules found = true) ∧
        r = ⟨source, target, reference⟩ :=
  Related.make_eq_ok_iff

/-! ## Sets and references -/

theorem scan_eq_ok_iff {extent : Extent} :
    b.scan extent = .ok e ↔
      (∃ t, b.rules.element? (extent.scanType b.here).shape = some t ∧
        b.rules.equals t.shape extent.elementShape = true) ∧
        e = ⟨extent.scanType b.here, .scan extent⟩ :=
  Expr.mkScan_eq_ok_iff

/-- The properties of a key are found by name, one for each member of the key. -/
theorem keyProperties_eq_ok_iff {entity : Entity} {properties : List (Property TypeUse)} :
    keyProperties entity = .ok properties ↔
      List.Forall₂ (fun n p => entity.property? n = some p) entity.keyMembers properties := by
  rw [keyProperties, mapM_eq_ok_iff]
  constructor
  · refine fun h => h.imp fun n p hp => ?_
    split at hp
    · rename_i q found
      rw [found, Except.ok.inj hp]
    · exact absurd hp (by simp)
  · refine fun h => h.imp fun n p hp => ?_
    rw [hp]

/-- The row of keys that a reference holds. -/
def keyRow (b : Builder) (set : EntitySet) (keys : List Expr) : Expr :=
  ⟨⟨b.here.child 0, rowShape (set.entity.keyMembers.zip keys)⟩, .newInstance keys []⟩

/-- With as many names as values, there are columns when there are values. -/
theorem zip_ne_nil_iff {names : List String} {values : List Expr} (count : names.length = values.length) :
    names.zip values ≠ [] ↔ values ≠ [] := by
  rw [not_iff_not, ← List.length_eq_zero_iff, List.length_zip, count, Nat.min_self,
    List.length_eq_zero_iff]

/-- The row of keys is a row that the builder makes, when there is one key for each member. -/
theorem newRow_eq_ok_iff_keyRow {set : EntitySet} {keys : List Expr}
    (count : set.entity.keyMembers.length = keys.length) :
    { b with here := b.here.child 0 }.newRow (set.entity.keyMembers.zip keys) = .ok e ↔
      (keys ≠ [] ∨ b.rules.isCollection (rowShape (set.entity.keyMembers.zip keys)) = true) ∧
        e = b.keyRow set keys := by
  rw [newRow_eq_ok_iff, zip_ne_nil_iff count, keyRow, List.map_snd_zip (Nat.le_of_eq count.symm)]

theorem ref_eq_ok_iff {set : EntitySet} {keys : List Expr} :
    b.ref set keys = .ok e ↔
      ∃ properties, List.Forall₂ (fun n p => set.entity.property? n = some p) set.entity.keyMembers properties ∧
        Fits b.rules (properties.map (·.type)) keys ∧
        (keys ≠ [] ∨ b.rules.isCollection (rowShape (set.entity.keyMembers.zip keys)) = true) ∧
        b.rules.isReference (.reference set.entity) = true ∧
        e = ⟨⟨b.here, .reference set.entity⟩, .ref set (b.keyRow set keys)⟩ := by
  rw [ref, bind_eq_ok_iff]
  constructor
  · rintro ⟨⟨⟩, count, h⟩
    have count := requireCount_eq_ok_iff.mp count
    obtain ⟨properties, found, h⟩ := bind_eq_ok_iff.mp h
    obtain ⟨⟨⟩, each, h⟩ := bind_eq_ok_iff.mp h
    obtain ⟨row, hrow, h⟩ := bind_eq_ok_iff.mp h
    have found := keyProperties_eq_ok_iff.mp found
    obtain ⟨nonempty, rfl⟩ := (newRow_eq_ok_iff_keyRow count).mp hrow
    obtain ⟨reference, rfl⟩ := Expr.mkRef_eq_ok_iff.mp h
    have length : (properties.map (·.type)).length = keys.length := by
      rw [List.length_map, ← count, List.Forall₂.length_eq found]
    exact ⟨properties, found, (requireEach_eq_ok_iff_fits length).mp each, nonempty, reference, rfl⟩
  · rintro ⟨properties, found, fits, nonempty, reference, rfl⟩
    have length : (properties.map (·.type)).length = keys.length := List.Forall₂.length_eq fits
    have count : set.entity.keyMembers.length = keys.length := by
      rw [← length, List.length_map, List.Forall₂.length_eq found]
    refine ⟨(), requireCount_eq_ok_iff.mpr count, bind_eq_ok_iff.mpr ⟨properties, ?_, ?_⟩⟩
    · exact keyProperties_eq_ok_iff.mpr found
    · refine bind_eq_ok_iff.mpr ⟨(), (requireEach_eq_ok_iff_fits length).mpr fits, ?_⟩
      refine bind_eq_ok_iff.mpr ⟨_, (newRow_eq_ok_iff_keyRow count).mpr ⟨nonempty, rfl⟩, ?_⟩
      exact Expr.mkRef_eq_ok_iff.mpr ⟨reference, rfl⟩

/-- The row of keys in a reference was made by the builder. -/
theorem newRow_of_ref_eq_ok {set : EntitySet} {keys : List Expr} (h : b.ref set keys = .ok e) :
    { b with here := b.here.child 0 }.newRow (set.entity.keyMembers.zip keys) = .ok (b.keyRow set keys) := by
  obtain ⟨properties, found, fits, nonempty, _⟩ := ref_eq_ok_iff.mp h
  have count : set.entity.keyMembers.length = keys.length := by
    rw [List.Forall₂.length_eq found, ← List.Forall₂.length_eq fits, List.length_map]
  exact (newRow_eq_ok_iff_keyRow count).mpr ⟨nonempty, rfl⟩

theorem deref_eq_ok_iff {reference : Expr} :
    b.deref reference = .ok e ↔
      ∃ entity, b.rules.referenceTarget? reference.type.shape = some entity ∧
        b.rules.isEntity (.entity entity) = true ∧ b.rules.isReference reference.type.shape = true ∧
        e = ⟨⟨b.here, .entity entity⟩, .deref reference⟩ := by
  unfold deref
  cases b.rules.referenceTarget? reference.type.shape with
  | none => simp
  | some entity => simp [Expr.mkDeref_eq_ok_iff]

/-! ## Conditions -/

theorem compare_eq_ok_iff {operator : Comparison} {left right : Expr} :
    b.compare operator left right = .ok e ↔
      Expr.comparable b.rules operator left.type.shape right.type.shape = true ∧
        Expr.eitherPromotes b.rules left.type.shape right.type.shape = true ∧
        e = ⟨Expr.booleanAt b.here, .comparison operator left right⟩ :=
  Expr.mkComparison_eq_ok_iff

theorem and_eq_ok_iff {left right : Expr} :
    b.and left right = .ok e ↔
      b.rules.isBoolean left.type.shape = true ∧ b.rules.isBoolean right.type.shape = true ∧
        e = ⟨Expr.booleanAt b.here, .and left right⟩ :=
  Expr.mkAnd_eq_ok_iff

theorem or_eq_ok_iff {left right : Expr} :
    b.or left right = .ok e ↔
      b.rules.isBoolean left.type.shape = true ∧ b.rules.isBoolean right.type.shape = true ∧
        e = ⟨Expr.booleanAt b.here, .or left right⟩ :=
  Expr.mkOr_eq_ok_iff

theorem not_eq_ok_iff {argument : Expr} :
    b.not argument = .ok e ↔
      b.rules.isBoolean argument.type.shape = true ∧ e = ⟨Expr.booleanAt b.here, .not argument⟩ :=
  Expr.mkNot_eq_ok_iff

theorem isNull_eq_ok_iff {argument : Expr} :
    b.isNull argument = .ok e ↔
      b.rules.isCollection argument.type.shape = false ∧
        e = ⟨Expr.booleanAt b.here, .isNull argument⟩ :=
  Expr.mkIsNull_eq_ok_iff

/-! ## Sets of bound elements -/

theorem bind_eq_ok_iff_element {source : Expr} {name : String} {bound : Binding} :
    b.bind source name = .ok bound ↔
      ∃ t, b.rules.element? source.type.shape = some t ∧ name ≠ "" ∧ bound = ⟨source, ⟨name, t⟩⟩ :=
  Binding.make_eq_ok_iff

theorem filter_eq_ok_iff {input : Binding} {predicate : Expr} :
    b.filter input predicate = .ok e ↔
      b.rules.isBoolean predicate.type.shape = true ∧
        e = ⟨input.source.type, .filter input predicate⟩ :=
  Expr.mkFilter_eq_ok_iff

end Builder
end EntityQuery
