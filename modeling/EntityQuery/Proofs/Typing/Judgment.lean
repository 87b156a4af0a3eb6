import EntityQuery.Proofs.Builder.Built
import EntityQuery.Proofs.Types.Standard
/-!
# `Proofs.Typing.Judgment` — correctly typed nodes

A node is **typed** when its type is the one that its children and its model data give it, and its operands
are of the types that the model demands at their places. The judgment has one rule for each way a node can
be correct. It speaks of types only, not of rules, calls or rejections, and no rule looks further down than
the types of the children; an expression is correct throughout when each of its nodes is typed.

## Contents
* `LambdaOf.WellFormed`, `BindingOf.WellFormed`, `RelatedOf.WellFormed` — what nodes are made of.
* `Expr.Typed` — the judgment.
* `Expr.Built.typed` — under the standard rules, every node that the builder makes is typed.
-/

namespace EntityQuery

/-! ## What nodes are made of -/

/-- **A well-formed lambda.** Its variables have names, and these are pairwise distinct. -/
structure LambdaOf.WellFormed (l : Lambda) : Prop where
  named : ∀ v ∈ l.formals, v.name ≠ ""
  distinct : (l.formals.map (·.name)).Nodup

/-- **A well-formed binding.** Its variable has a name and is of the element type of its source. -/
structure BindingOf.WellFormed (b : Binding) : Prop where
  named : b.element.name ≠ ""
  element : b.source.type.shape = .collection b.element.type

/-- **A well-formed related entity.** Its ends are two different ends of one relationship, at most one entity
    stands at the target, and its reference points at an entity of the target's type or a subtype. -/
structure RelatedOf.WellFormed (r : Related) : Prop where
  sameRelationship : r.source.relationship.id = r.target.relationship.id
  differentEnds : r.source.index.val ≠ r.target.index.val
  atMostOne : r.target.isAtMostOne = true
  reference : ∃ found, r.reference.type.shape = .reference found ∧ found.IsA r.target.entity

/-- Operands at their places: one for each, of a type that may stand for the declared one. -/
def Placed (types : List TypeUse) (operands : List Expr) : Prop :=
  List.Forall₂ (fun t e => e.type.shape.promotesTo t.shape = true) types operands

/-- The type of a walk to an end: the very type of the end when at most one instance stands there, a
    collection of that type otherwise. -/
def TypeUse.IsWalkTo (type : TypeUse) (toEnd : RelationshipEnd) : Prop :=
  if toEnd.isAtMostOne then type = toEnd.type else type.shape = .collection toEnd.type

/-! ## The judgment -/

/-- **Typed.** The node's type and its operands are as its kind demands. -/
inductive Expr.Typed : Expr → Prop
  | constant {type value} (carried : type.shape.carrier? = some value.kind) : Typed ⟨type, .constant value⟩
  | null {type} : Typed ⟨type, .null⟩
  | variableReference {type name} (named : name ≠ "") : Typed ⟨type, .variableReference name⟩
  | parameterReference {type name} (named : isParameterName name = true) :
      Typed ⟨type, .parameterReference name⟩
  /-- The member is the one that the instance's type has under its name, and the type is the member's. -/
  | property {type member object} (found : object.type.shape.member? member.name = some member)
      (declared : member.type? = some type) : Typed ⟨type, .property member object⟩
  /-- The instance is of the entity that the walk starts from, or derives from it. -/
  | navigationProperty {object instanceType} {n : NavigationProperty}
      (entity : object.type.shape = .entity instanceType) (isA : instanceType.IsA n.fromEnd.entity) :
      Typed ⟨n.type, .property (.navigation n) object⟩
  | function {type arguments} {f : FunctionDecl} (returned : f.returnType? = some type)
      (placed : Placed (f.parameters.map (·.type)) arguments) : Typed ⟨type, .function f arguments⟩
  | lambda {l arguments} (wellFormed : LambdaOf.WellFormed l) (placed : Placed (l.formals.map (·.type)) arguments) :
      Typed ⟨l.body.type, .lambda l arguments⟩
  /-- The source refers to an entity at the first end, the second is of the same relationship, and that is
      noted among those it keeps, so that the node keeps it. -/
  | navigation {type source target} {fromEnd toEnd : RelationshipEnd}
      (reference : source.type.shape = .reference target) (isA : target.IsA fromEnd.entity)
      (sameRelationship : toEnd.relationship.id = fromEnd.relationship.id)
      (noted : fromEnd.relationship.mentions fromEnd.relationship.id = true) (walk : type.IsWalkTo toEnd) :
      Typed ⟨type, .navigation fromEnd.relationship fromEnd toEnd source⟩
  /-- One element for each property, inherited properties first; only an entity has related entities. -/
  | entity {type elements related} {e : Entity} (shape : type.shape = .entity e) (nonempty : elements ≠ [])
      (placed : Placed (e.properties.map (·.type)) elements)
      (joined : ∀ r ∈ related, RelatedOf.WellFormed r) : Typed ⟨type, .newInstance elements related⟩
  | complex {type elements} {c : ComplexType TypeUse} (shape : type.shape = .complex c)
      (nonempty : elements ≠ []) (placed : Placed (c.properties.map (·.type)) elements) :
      Typed ⟨type, .newInstance elements []⟩
  | row {type elements columns} (shape : type.shape = .row columns) (nonempty : elements ≠ [])
      (placed : Placed (columns.map (·.type)) elements) : Typed ⟨type, .newInstance elements []⟩
  | collection {type elements element} (shape : type.shape = .collection element)
      (each : ∀ e ∈ elements, e.type.shape.promotesTo element.shape = true) :
      Typed ⟨type, .newInstance elements []⟩
  /-- The keys are a row of one value for each member of the key, in the order of the key. -/
  | ref {type row keys properties} {set : EntitySet} (shape : type.shape = .reference set.entity)
      (rowShape : row.type.shape = Builder.rowShape (set.entity.keyMembers.zip keys))
      (rowNode : row.node = .newInstance keys []) (nonempty : keys ≠ [])
      (found : List.Forall₂ (fun n p => set.entity.property? n = some p) set.entity.keyMembers properties)
      (placed : Placed (properties.map (·.type)) keys) : Typed ⟨type, .ref set row⟩
  | deref {type reference} {e : Entity} (target : reference.type.shape = .reference e)
      (shape : type.shape = .entity e) : Typed ⟨type, .deref reference⟩
  | scan {here extent} : Typed ⟨Extent.scanType here extent, .scan extent⟩
  | comparison {type operator left right} (boolean : type.shape = .primitive .boolean)
      (applies : operator.AppliesTo left.type.shape right.type.shape) :
      Typed ⟨type, .comparison operator left right⟩
  | and {type left right} (boolean : type.shape = .primitive .boolean)
      (ofLeft : left.type.shape = .primitive .boolean) (ofRight : right.type.shape = .primitive .boolean) :
      Typed ⟨type, .and left right⟩
  | or {type left right} (boolean : type.shape = .primitive .boolean)
      (ofLeft : left.type.shape = .primitive .boolean) (ofRight : right.type.shape = .primitive .boolean) :
      Typed ⟨type, .or left right⟩
  | not {type argument} (boolean : type.shape = .primitive .boolean)
      (ofArgument : argument.type.shape = .primitive .boolean) : Typed ⟨type, .not argument⟩
  | isNull {type argument} (boolean : type.shape = .primitive .boolean)
      (single : ∀ element, argument.type.shape ≠ .collection element) : Typed ⟨type, .isNull argument⟩
  /-- A filter has the very type of what it filters. -/
  | filter {input predicate} (wellFormed : BindingOf.WellFormed input)
      (condition : predicate.type.shape = .primitive .boolean) :
      Typed ⟨input.source.type, .filter input predicate⟩
  | project {type input projection} (wellFormed : BindingOf.WellFormed input)
      (shape : type.shape = .collection projection.type) : Typed ⟨type, .project input projection⟩

/-! ## Members bear the name they are found by -/

/-- A structural property found by a name has that name. -/
theorem Shape.name_of_structuralProperty?_eq_some {s : EdmShape} {n : String} {p : Property TypeUse}
    (h : s.structuralProperty? n = some p) : p.name = n := by
  cases s with
  | entity e =>
    obtain ⟨d, _, hd⟩ := List.exists_of_findSome?_eq_some h
    simpa using List.find?_some hd
  | complex c => simpa using List.find?_some h
  | row columns => simpa using List.find?_some h
  | _ => exact absurd h (by simp [structuralProperty?])

/-- A member found by a name has that name. -/
theorem Shape.name_of_member?_eq_some {s : EdmShape} {n : String} {m : Member} (h : s.member? n = some m) :
    m.name = n := by
  unfold Shape.member? at h
  split at h
  · obtain ⟨e, he, rfl⟩ := Option.map_eq_some_iff.mp h
    exact (RelationshipType.end?_eq_some he).2
  · obtain ⟨p, hp, rfl⟩ := Option.map_eq_some_iff.mp h
    exact name_of_structuralProperty?_eq_some hp

/-! ## What the builder makes is typed -/

theorem LambdaOf.Built.wellFormed {l : Lambda} (built : LambdaOf.Built l) : l.WellFormed := by
  obtain ⟨b, formals, made⟩ := built
  obtain ⟨named, distinct, h⟩ := Builder.lambda_eq_ok_iff.mp made
  have formals_eq : l.formals = formals.map fun v => ⟨v.1, v.2⟩ := congrArg LambdaOf.formals h
  constructor
  · intro v hv
    rw [formals_eq] at hv
    obtain ⟨w, hw, rfl⟩ := List.mem_map.mp hv
    exact named w hw
  · rw [formals_eq, List.map_map]
    exact distinct

theorem BindingOf.Built.wellFormed {b : Binding} (built : BindingOf.Built .standard b) : b.WellFormed := by
  obtain ⟨alive, here, made⟩ := built
  obtain ⟨t, element, named, h⟩ := Builder.bind_eq_ok_iff_element.mp made
  have type_eq : b.element.type = t := congrArg (fun b => b.element.type) h
  constructor
  · exact named
  · rw [type_eq]
    exact TypeRules.standard_element?_eq_some_iff.mp element

theorem RelatedOf.Built.wellFormed {r : Related} (built : RelatedOf.Built .standard r) : r.WellFormed := by
  obtain ⟨alive, here, made⟩ := built
  obtain ⟨same, different, atMostOne, ⟨found, target, accepted⟩, _⟩ := Builder.related_eq_ok_iff.mp made
  constructor
  · simpa [RelationshipEnd.sameRelationship] using same
  · simpa [RelationshipEnd.sameEnd, same] using different
  · exact atMostOne
  · have isA := RelationshipEnd.accepts_standard_iff.mp accepted
    exact ⟨found, TypeRules.standard_referenceTarget?_eq_some_iff.mp target, isA⟩

/-- Elements that can make an instance make a typed one. -/
theorem Expr.typed_of_elementsFit {type : TypeUse} {elements : List Expr}
    (fit : ElementsFit .standard type.shape elements)
    (nonempty : elements ≠ [] ∨ TypeRules.standard.isCollection type.shape = true) :
    Expr.Typed ⟨type, .newInstance elements []⟩ := by
  obtain ⟨h, shape⟩ := type
  -- only a collection may be made of nothing
  have some_of (single : ∀ t, shape ≠ .collection t) : elements ≠ [] := by
    refine nonempty.resolve_right ?_
    intro collection
    obtain ⟨t, ht⟩ := TypeRules.standard_isCollection_iff.mp collection
    exact single t ht
  cases shape with
  | entity e => exact .entity rfl (some_of nofun) fit nofun
  | complex c => exact .complex rfl (some_of nofun) fit
  | row columns => exact .row rfl (some_of nofun) fit
  | collection t => exact .collection rfl fit
  | primitive _ | enumeration _ | relationship _ | reference _ => exact absurd fit id

/-- The columns of a row are of the types of their values. -/
theorem Builder.placed_rowShape (columns : List (String × Expr)) :
    Placed ((columns.map fun c => (⟨c.1, c.2.type⟩ : Property TypeUse)).map (·.type)) (columns.map (·.2)) := by
  induction columns with
  | nil => exact .nil
  | cons c cs ih => exact .cons (Shape.promotesTo_refl c.2.type.shape) ih

/-- **Built nodes are typed.** Under the standard rules the node that a call of the builder makes is typed. -/
theorem Expr.Built.typed {e : Expr} (built : e.Built .standard) : e.Typed := by
  cases built with
  | constant made =>
    obtain ⟨_, carried, rfl⟩ := Builder.constant_eq_ok_iff.mp made
    exact .constant carried
  | constantOf made =>
    obtain ⟨_, carried, rfl⟩ := Builder.constantOf_eq_ok_iff.mp made
    exact .constant carried
  | null => exact .null
  | variableReference made =>
    obtain ⟨named, rfl⟩ := Builder.variableReference_eq_ok_iff.mp made
    exact .variableReference named
  | parameterReference made =>
    obtain ⟨named, rfl⟩ := Builder.parameterReference_eq_ok_iff.mp made
    exact .parameterReference named
  | property made =>
    obtain ⟨member, type, found, declared, rfl⟩ := Builder.property_eq_ok_iff.mp made
    have name := Shape.name_of_member?_eq_some found
    exact .property (name ▸ found) declared
  | navigationProperty made =>
    obtain ⟨covers, rfl⟩ := Builder.navigationProperty_eq_ok_iff.mp made
    obtain ⟨found, entity, isA⟩ := TypeRules.standard_covers_entity_iff.mp covers
    exact .navigationProperty entity isA
  | @navigate _ _ _ toEnd _ _ noted made =>
    obtain ⟨_, covers, declared, rfl⟩ := Builder.navigate_eq_ok_iff.mp made
    obtain ⟨found, reference, isA⟩ := TypeRules.standard_covers_reference_iff.mp covers
    refine .navigation reference isA (by simpa [RelationshipEnd.isDeclaredBy] using declared) noted ?_
    unfold TypeUse.IsWalkTo Builder.navigationType
    by_cases one : toEnd.isAtMostOne = true
    · rw [if_pos one, if_pos one]
    · rw [if_neg one, if_neg one]
  | function made =>
    obtain ⟨returned, declared, fit, rfl⟩ := Builder.function_eq_ok_iff.mp made
    exact .function declared fit
  | invoke lambda made =>
    obtain ⟨fit, rfl⟩ := Builder.invoke_eq_ok_iff.mp made
    exact .lambda lambda.wellFormed fit
  | @newRow _ _ columns _ made =>
    obtain ⟨nonempty, rfl⟩ := Builder.newRow_eq_ok_iff.mp made
    refine typed_of_elementsFit (Builder.placed_rowShape columns) ?_
    rw [Ne, List.map_eq_nil_iff]
    exact nonempty
  | newInstance made =>
    obtain ⟨fit, nonempty, rfl⟩ := Builder.newInstance_eq_ok_iff.mp made
    exact typed_of_elementsFit fit nonempty
  | newCollection made =>
    obtain ⟨first, rest, _, each, rfl⟩ := Builder.newCollection_eq_ok_iff.mp made
    exact .collection rfl each
  | newEmptyCollection made =>
    obtain ⟨_, rfl⟩ := Builder.newEmptyCollection_eq_ok_iff.mp made
    exact .collection rfl (fun e he => absurd he List.not_mem_nil)
  | newEntity joined made =>
    obtain ⟨fit, _, nonempty, rfl⟩ := Builder.newEntity_eq_ok_iff.mp made
    have nonempty := nonempty.resolve_right (by simp [TypeRules.standard])
    exact .entity rfl nonempty fit fun r hr => (joined r hr).wellFormed
  | scan made =>
    obtain ⟨_, rfl⟩ := Builder.scan_eq_ok_iff.mp made
    exact .scan
  | ref made =>
    obtain ⟨properties, found, fit, nonempty, _, rfl⟩ := Builder.ref_eq_ok_iff.mp made
    have nonempty := nonempty.resolve_right (by simp [TypeRules.standard, Builder.rowShape])
    exact .ref rfl rfl rfl nonempty found fit
  | deref made =>
    obtain ⟨entity, target, _, _, rfl⟩ := Builder.deref_eq_ok_iff.mp made
    exact .deref (TypeRules.standard_referenceTarget?_eq_some_iff.mp target) rfl
  | compare made =>
    obtain ⟨comparable, either, rfl⟩ := Builder.compare_eq_ok_iff.mp made
    exact .comparison rfl (standard_comparable_iff.mp ⟨comparable, either⟩)
  | and made =>
    obtain ⟨left, right, rfl⟩ := Builder.and_eq_ok_iff.mp made
    exact .and rfl (TypeRules.standard_isBoolean_iff.mp left) (TypeRules.standard_isBoolean_iff.mp right)
  | or made =>
    obtain ⟨left, right, rfl⟩ := Builder.or_eq_ok_iff.mp made
    exact .or rfl (TypeRules.standard_isBoolean_iff.mp left) (TypeRules.standard_isBoolean_iff.mp right)
  | not made =>
    obtain ⟨argument, rfl⟩ := Builder.not_eq_ok_iff.mp made
    exact .not rfl (TypeRules.standard_isBoolean_iff.mp argument)
  | isNull made =>
    obtain ⟨single, rfl⟩ := Builder.isNull_eq_ok_iff.mp made
    refine .isNull rfl ?_
    intro t ht
    rw [TypeRules.standard_isCollection_iff.mpr ⟨t, ht⟩] at single
    exact absurd single.symm Bool.false_ne_true
  | filter bound made =>
    obtain ⟨condition, rfl⟩ := Builder.filter_eq_ok_iff.mp made
    exact .filter bound.wellFormed (TypeRules.standard_isBoolean_iff.mp condition)
  | project bound => exact .project bound.wellFormed rfl

end EntityQuery
