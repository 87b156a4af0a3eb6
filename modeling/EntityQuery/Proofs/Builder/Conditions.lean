import EntityQuery.Proofs.Builder.Positional
import EntityQuery.Proofs.Types.Inheritance
import EntityQuery.Proofs.Types.Standard
/-!
# `Proofs.Builder.Conditions` — what each method of the builder is judged by

The builder derives the type of what it makes and hands it to the node, which checks the type once more. The
second check is for those who make nodes under types of their own: a derived type passes it, over any metadata.
So the conditions that a method is judged by are about what it is called on alone. They are named here, and each
method is shown to follow its own, in their order.

## Contents
* `Requirement.Met` — what the phrases for types ask of a shape.
* `Condition.meets`, `named`, `hasMember`, … — the conditions; `Condition.ofInstance` for instances.
* `Builder.judgedBy_constant` … `Builder.judgedBy_bind` — one lemma for each method.
-/

namespace EntityQuery

/-! ## The conditions -/

/-- **What a phrase asks for.** The shape is of the kind that the phrase names; phrases that are not about
    types ask for none. -/
inductive Requirement.Met : Requirement → EdmShape → Prop
  | boolean : Met .booleanType (.primitive .boolean)
  | primitive {kind : Primitive} : Met .scalarType (.primitive kind)
  | enumeration {type : EnumType} : Met .scalarType (.enumeration type)
  | reference {target : Entity} : Met .referenceType (.reference target)
  | collection {element : TypeUse} : Met .collectionType (.collection element)
  | entity {type : Entity} : Met .structuralOrCollectionType (.entity type)
  | complex {type : ComplexType TypeUse} : Met .structuralOrCollectionType (.complex type)
  | row {columns : List (Property TypeUse)} : Met .structuralOrCollectionType (.row columns)
  | elements {element : TypeUse} : Met .structuralOrCollectionType (.collection element)
  | single {shape : EdmShape} (other : ∀ element, shape ≠ .collection element) : Met .nonCollectionType shape

/-- The properties that an instance of a shape has, inherited ones first. -/
def Shape.properties : EdmShape → List (Property TypeUse)
  | entity e => e.properties
  | complex c => c.properties
  | row columns => columns
  | _ => []

namespace Condition

/-- The type is of the kind that the phrase names. -/
def meets (blamed : Argument) (requirement : Requirement) (type : TypeUse) : Condition where
  holds := requirement.Met type.shape
  reported cause := cause = .unexpectedType blamed requirement type.text

/-- Values of the kind are carried by the type. -/
def carries (type : TypeUse) (value : Literal) : Condition where
  holds := type.shape.carrier? = some value.kind
  reported cause := cause = .valueTypeMismatch .value type.text value.kind.name

/-- There is a name. -/
def named (name : String) : Condition where
  holds := name ≠ ""
  reported cause := cause = .emptyArgument .name

/-- The name is one for parameters. -/
def namesParameter (name : String) : Condition where
  holds := isParameterName name = true
  reported cause := cause = .invalidParameterName name

/-- The names are pairwise distinct. The earliest that is not new is reported. -/
def distinct (names : List String) : Condition where
  holds := names.Nodup
  reported cause := ∃ before n after, names = before ++ n :: after ∧ before.Nodup ∧ n ∈ before ∧
    cause = .duplicateVariable n

/-- Instances of the operand's type have a member of the name. -/
def hasMember (object : Expr) (name : String) : Condition where
  holds := ∃ member, object.type.shape.member? name = some member
  reported cause := cause = .unknownMember object.type.text name

/-- The operand is an instance of the entity, or of one that derives from it. -/
def isInstance (entity : Entity) (object : Expr) : Condition where
  holds := ∃ found, object.type.shape = .entity found ∧ found.IsA entity
  reported cause := cause = .valueTypeMismatch .instanceValue entity.fullName object.type.text

/-- The operand refers to the entity, or to one that derives from it. -/
def refersTo (entity : Entity) (source : Expr) : Condition where
  holds := ∃ found, source.type.shape = .reference found ∧ found.IsA entity
  reported cause := cause = .valueTypeMismatch .source (Shape.reference entity).text source.type.text

/-- The relationship of the end is alive. -/
def joins (alive : Handle → Bool) (fromEnd : RelationshipEnd) : Condition where
  holds := alive fromEnd.relationship.id = true
  reported cause := cause = .endNotInRelationship .fromEnd fromEnd.name (fromEnd.declaringName alive)

/-- The end is one of the very relationship. -/
def endOf (relationship : Relationship) (toEnd : RelationshipEnd) : Condition where
  holds := toEnd.relationship.id = relationship.id
  reported cause := cause = .endNotInRelationship .toEnd toEnd.name relationship.fullName

/-- The function returns something. -/
def returns (function : FunctionDecl) : Condition where
  holds := function.returnType? ≠ none
  reported cause := cause = .unexpectedType .function .functionWithReturnType function.fullName

/-- There is something to make an instance of the type from. -/
def madeOf {α : Type} (type : TypeUse) (parts : List α) : Condition where
  holds := parts ≠ []
  reported cause := cause = .emptyElements type.text

/-- The operator applies to the operands. -/
def compares (operator : Comparison) (left right : Expr) : Condition where
  holds := operator.AppliesTo left.type.shape right.type.shape
  reported cause := cause = .incompatibleTypes .right left.type.text right.type.text

/-- There is a first element. -/
def first (elements : List Expr) : Condition where
  holds := elements ≠ []
  reported cause := cause = .emptyArgument .elements

/-- The conditions on the elements of an instance: any number for a collection, each of its element type; one
    for each property of any other type, and at least one. -/
def ofInstance (type : TypeUse) (elements : List Expr) : List Condition :=
  match type.shape with
  | .collection element => elements.map (.standsAt .elements element)
  | shape => .meets .resultType .structuralOrCollectionType type ::
      (byPosition .elements (shape.properties.map (·.type)) elements ++ [.madeOf type elements])

theorem ofInstance_collection {type element : TypeUse} (elements : List Expr)
    (shape : type.shape = .collection element) :
    ofInstance type elements = elements.map (.standsAt .elements element) := by
  rw [ofInstance, shape]

theorem ofInstance_of_single {type : TypeUse} (elements : List Expr)
    (single : ∀ element, type.shape ≠ .collection element) :
    ofInstance type elements = .meets .resultType .structuralOrCollectionType type ::
      (byPosition .elements (type.shape.properties.map (·.type)) elements ++ [.madeOf type elements]) := by
  obtain ⟨h, shape⟩ := type
  cases shape with
  | collection element => exact absurd rfl (single element)
  | _ => rfl

end Condition

/-! ## What phrases ask for -/

namespace TypeRules

variable {s : EdmShape}

theorem standard_isBoolean_iff_met : standard.isBoolean s = true ↔ Requirement.booleanType.Met s := by
  rw [standard_isBoolean_iff]
  constructor
  · rintro rfl
    exact .boolean
  · rintro ⟨⟩
    rfl

theorem standard_isScalar_iff_met : standard.isScalar s = true ↔ Requirement.scalarType.Met s := by
  constructor
  · intro scalar
    cases s with
    | primitive _ => exact .primitive
    | enumeration _ => exact .enumeration
    | _ => exact absurd scalar Bool.false_ne_true
  · rintro (_ | _) <;> rfl

theorem standard_isCollection_eq_false_iff_met :
    (!standard.isCollection s) = true ↔ Requirement.nonCollectionType.Met s := by
  rw [Bool.not_eq_true', ← Bool.not_eq_true, standard_isCollection_iff, not_exists]
  constructor
  · exact .single
  · rintro ⟨⟩
    assumption

end TypeRules

/-! ## Every method follows its conditions -/

namespace Builder

variable {alive : Handle → Bool} {here : Handle}

/-- The kind of an operand's type is judged by the phrase for it. -/
theorem judgedBy_meets {rule : Bool} {blamed : Argument} {requirement : Requirement} {type : TypeUse}
    (decides : rule = true ↔ requirement.Met type.shape) :
    JudgedBy [.meets blamed requirement type] (require rule (.unexpectedType blamed requirement type.text))
      fun _ => requirement.Met type.shape :=
  judgedBy_require decides fun _ => Iff.rfl

theorem judgedBy_boolean {blamed : Argument} (operand : Expr) :
    JudgedBy [.meets blamed .booleanType operand.type] (Expr.requireBoolean .standard blamed operand)
      fun _ => True :=
  (judgedBy_meets TypeRules.standard_isBoolean_iff_met).making fun _ _ => trivial

/-- The type of a value is a scalar and carries it. -/
theorem judgedBy_constant (value : Literal) :
    JudgedBy [] (Builder.constant ⟨.standard, alive, here⟩ value) fun _ => True :=
  judgedBy_nil (Builder.constant_eq_ok_iff.mpr ⟨rfl, rfl, rfl⟩)

/-- The type of a scan is a collection of what the extent holds, and every type equals itself. -/
theorem judgedBy_scan (extent : Extent) :
    JudgedBy [] (Builder.scan ⟨.standard, alive, here⟩ extent) fun _ => True :=
  judgedBy_nil (Builder.scan_eq_ok_iff.mpr ⟨⟨_, rfl, Shape.equals_refl _⟩, rfl⟩)

/-- A collection may be made of nothing. -/
theorem judgedBy_newEmptyCollection (element : TypeUse) :
    JudgedBy [] (Builder.newEmptyCollection ⟨.standard, alive, here⟩ element) fun _ => True :=
  judgedBy_nil (Builder.newEmptyCollection_eq_ok_iff.mpr ⟨rfl, rfl⟩)

theorem judgedBy_constantOf (type : TypeUse) (value : Literal) :
    JudgedBy [.meets .resultType .scalarType type, .carries type value]
      (Expr.mkConstant .standard type value) fun _ => True := by
  apply (judgedBy_meets TypeRules.standard_isScalar_iff_met).bind_cons
  intro _ _
  exact (judgedBy_require (k := .carries type value) beq_iff_eq fun _ => Iff.rfl).into

theorem judgedBy_variable (name : String) (type : TypeUse) :
    JudgedBy [.named name] (Variable.make name type) (· = ⟨name, type⟩) :=
  (judgedBy_require (k := .named name) bne_iff_ne fun _ => Iff.rfl).map fun _ _ => rfl

theorem judgedBy_parameterReference (name : String) (type : TypeUse) :
    JudgedBy [.namesParameter name] (Expr.mkParameter name type) fun _ => True :=
  (judgedBy_require (k := .namesParameter name) Iff.rfl fun _ => Iff.rfl).into

/-- A member that is found has a type and can be read. -/
theorem judgedBy_property (object : Expr) (name : String) :
    JudgedBy [.hasMember object name] (Builder.property ⟨.standard, alive, here⟩ object name) fun _ => True := by
  apply judgedBy_cons
  · rintro ⟨member, found⟩
    have readable : member.isReadable = true := Shape.isReadable_of_member?_eq_some found
    rw [Member.isReadable_eq] at readable
    obtain ⟨type, typed⟩ := Option.isSome_iff_exists.mp readable
    exact judgedBy_nil (Builder.property_eq_ok_iff.mpr ⟨member, type, found, typed, rfl⟩)
  · intro unknown
    have none : object.type.shape.member? name = none := by
      apply Option.eq_none_iff_forall_ne_some.mpr
      intro member found
      exact unknown ⟨member, found⟩
    refine ⟨_, ?_, fun _ => Iff.rfl⟩
    rw [Builder.property, none]

theorem judgedBy_navigationProperty (object : Expr) (navigation : NavigationProperty) :
    JudgedBy [.isInstance navigation.fromEnd.entity object]
      (Builder.navigationProperty ⟨.standard, alive, here⟩ object navigation) fun _ => True := by
  have instance_ := judgedBy_require (k := .isInstance navigation.fromEnd.entity object)
    TypeRules.standard_covers_entity_iff fun _ => Iff.rfl
  exact instance_.bind_of_ok fun _ _ => ⟨_, rfl, trivial⟩

/-- The second end is for the node to judge; the first is an end of the relationship that it declares. -/
theorem judgedBy_navigate (source : Expr) (fromEnd toEnd : RelationshipEnd) :
    JudgedBy [.joins alive fromEnd, .refersTo fromEnd.entity source, .endOf fromEnd.relationship toEnd]
      (Builder.navigate ⟨.standard, alive, here⟩ source fromEnd toEnd) fun _ => True := by
  unfold Builder.navigate RelationshipEnd.declaring?
  apply judgedBy_cons
  · intro (joined : alive fromEnd.relationship.id = true)
    rw [if_pos joined]
    have refers := judgedBy_require (k := .refersTo fromEnd.entity source)
      TypeRules.standard_covers_reference_iff fun _ => Iff.rfl
    apply refers.bind_cons
    intro _ _
    unfold Expr.mkNavigation
    rw [RelationshipEnd.isDeclaredBy_self]
    exact (judgedBy_require (k := .endOf fromEnd.relationship toEnd) beq_iff_eq fun _ => Iff.rfl).into
  · intro (dead : ¬ alive fromEnd.relationship.id = true)
    refine ⟨_, ?_, fun _ => Iff.rfl⟩
    rw [if_neg dead]

/-- A function must return something, and takes its arguments by position. -/
theorem judgedBy_function (f : FunctionDecl) (arguments : List Expr) :
    JudgedBy (.returns f :: Condition.byPosition .arguments (f.parameters.map (·.type)) arguments)
      (Builder.function ⟨.standard, alive, here⟩ f arguments) fun _ => True := by
  apply judgedBy_cons
  · intro returns
    obtain ⟨returned, returns⟩ := Option.ne_none_iff_exists'.mp returns
    rw [Builder.function, FunctionDecl.returnType_eq_ok_iff.mpr returns]
    apply (judgedBy_requirePositions _ arguments).bind_of_ok
    intro _ fits
    -- the node counts once more, and asks for the very type that it is given
    have count : f.parameters.length = arguments.length := by
      simpa using List.Forall₂.length_eq fits
    exact ⟨_, Expr.mkFunction_eq_ok_iff.mpr ⟨returned, returns, rfl, count, rfl⟩, trivial⟩
  · intro nothing
    have none : f.returnType? = none := of_not_not nothing
    refine ⟨_, ?_, fun _ => Iff.rfl⟩
    rw [Builder.function, FunctionDecl.returnType, none]
    rfl

/-- Names are judged one by one, and then together. -/
theorem judgedBy_lambda (formals : List (String × TypeUse)) (body : Expr) :
    JudgedBy (formals.map (fun v => .named v.1) ++ [.distinct (formals.map (·.1))])
      (Builder.lambda ⟨.standard, alive, here⟩ formals body) fun _ => True := by
  apply (judgedBy_mapM (fun v => judgedBy_variable v.1 v.2) formals).bind
  intro vs made
  have names : vs.map (·.name) = formals.map (·.1) := by
    refine (map_eq_of_forall₂ ?_ made).symm
    rintro v _ w _ rfl
    rfl
  unfold Lambda.make
  rw [names]
  apply judgedBy_cons
  · intro distinct
    rw [firstRepeated?_eq_none_iff.mpr distinct]
    exact judgedBy_nil rfl
  · intro repeated
    obtain ⟨n, found⟩ := Option.ne_none_iff_exists'.mp fun none => repeated (firstRepeated?_eq_none_iff.mp none)
    rw [found]
    refine ⟨_, rfl, ?_⟩
    intro c
    constructor
    · rintro ⟨before, m, after, same, distinct, again, rfl⟩
      have earliest := firstRepeated?_eq_some_iff.mpr ⟨before, after, same, distinct, again⟩
      rw [found, Option.some.injEq] at earliest
      rw [earliest]
    · rintro rfl
      obtain ⟨before, after, same, distinct, again⟩ := firstRepeated?_eq_some_iff.mp found
      exact ⟨before, n, after, same, distinct, again, rfl⟩

/-- A lambda takes its arguments by position. -/
theorem judgedBy_invoke (l : Lambda) (arguments : List Expr) :
    JudgedBy (Condition.byPosition .arguments (l.formals.map (·.type)) arguments)
      (Builder.invoke ⟨.standard, alive, here⟩ l arguments) fun _ => True := by
  apply (judgedBy_requirePositions _ arguments).bind_of_ok
  intro _ fits
  have count : l.formals.length = arguments.length := by
    simpa using List.Forall₂.length_eq fits
  exact ⟨_, Expr.mkInvocation_eq_ok_iff.mpr ⟨rfl, count, rfl⟩, trivial⟩

/-- Only what is no collection needs something to be made of. -/
theorem judgedBy_requireElements (type : TypeUse) (elements : List Expr)
    (single : ∀ element, type.shape ≠ .collection element) :
    JudgedBy [.madeOf type elements] (Expr.requireElements .standard type elements) fun _ => True := by
  have other : TypeRules.standard.isCollection type.shape = false := by
    rw [← Bool.not_eq_true, TypeRules.standard_isCollection_iff, not_exists]
    exact single
  have decides : (!elements.isEmpty || TypeRules.standard.isCollection type.shape) = true ↔ elements ≠ [] := by
    rw [other, Bool.or_false, Bool.not_eq_true', ← Bool.not_eq_true, List.isEmpty_iff]
  exact (judgedBy_require (k := .madeOf type elements) decides fun _ => Iff.rfl).making fun _ _ => trivial

theorem judgedBy_newRow (columns : List (String × Expr)) :
    JudgedBy [.madeOf ⟨here, Builder.rowShape columns⟩ (columns.map (·.2))]
      (Builder.newRow ⟨.standard, alive, here⟩ columns) fun _ => True :=
  (judgedBy_requireElements ⟨here, Builder.rowShape columns⟩ _ nofun).into

/-- An instance of what is no collection is of a type with properties, and has its elements in their places. -/
theorem judgedBy_requireInstance {type : TypeUse} (elements : List Expr)
    (single : ∀ element, type.shape ≠ .collection element) :
    JudgedBy (.meets .resultType .structuralOrCollectionType type ::
        Condition.byPosition .elements (type.shape.properties.map (·.type)) elements)
      (Builder.requireInstance ⟨.standard, alive, here⟩ type elements) fun _ => True := by
  obtain ⟨h, shape⟩ := type
  have positions : JudgedBy (Condition.byPosition .elements (shape.properties.map (·.type)) elements)
      (requirePositions .standard .elements (shape.properties.map (·.type)) elements) fun _ => True :=
    (judgedBy_requirePositions _ elements).making fun _ _ => trivial
  apply judgedBy_cons
  · rintro (_ | _ | _ | _)
    · exact positions
    · exact positions
    · exact positions
    · exact absurd rfl (single _)
  · intro other
    refine ⟨_, ?_, fun _ => Iff.rfl⟩
    cases shape with
    | entity _ => exact absurd .entity other
    | complex _ => exact absurd .complex other
    | row _ => exact absurd .row other
    | collection _ => exact absurd .elements other
    | primitive _ | enumeration _ | relationship _ | reference _ => rfl

/-- A collection is judged by the type of its elements, and takes any number of them. -/
theorem judgedBy_newInstance_collection (type element : TypeUse) (elements : List Expr)
    (shape : type.shape = .collection element) :
    JudgedBy (elements.map (.standsAt .elements element))
      (Builder.newInstance ⟨.standard, alive, here⟩ type elements) fun _ => True := by
  obtain ⟨h, _⟩ := type
  obtain rfl := shape
  apply (judgedBy_forM_requireAssignable element elements).bind_of_ok
  intro _ _
  exact ⟨_, Expr.mkNewInstance_eq_ok_iff.mpr ⟨.inr rfl, rfl⟩, trivial⟩

/-- An instance is judged as one of a collection, or else by the properties of its type. -/
theorem judgedBy_newInstance (type : TypeUse) (elements : List Expr) :
    JudgedBy (Condition.ofInstance type elements) (Builder.newInstance ⟨.standard, alive, here⟩ type elements)
      fun _ => True := by
  by_cases collection : ∃ element, type.shape = .collection element
  · obtain ⟨element, shape⟩ := collection
    rw [Condition.ofInstance_collection elements shape]
    exact judgedBy_newInstance_collection type element elements shape
  · rw [not_exists] at collection
    rw [Condition.ofInstance_of_single elements collection, ← List.cons_append]
    apply (judgedBy_requireInstance elements collection).bind
    intro _ _
    exact (judgedBy_requireElements type elements collection).into

/-- An entity type has properties to make an entity of. The related entities are taken as they are. -/
theorem judgedBy_newEntity (entity : Entity) (elements : List Expr) (related : List Related) :
    JudgedBy (Condition.byPosition .elements (entity.properties.map (·.type)) elements ++
        [.madeOf ⟨here, .entity entity⟩ elements])
      (Builder.newEntity ⟨.standard, alive, here⟩ entity elements related) fun _ => True := by
  apply (judgedBy_requirePositions _ elements).bind
  intro _ _
  exact (judgedBy_requireElements ⟨here, .entity entity⟩ elements nofun).into

/-- The type of the first element is the type of elements, which it may itself stand for. -/
theorem judgedBy_newCollection (first : Expr) (rest : List Expr) :
    JudgedBy (rest.map (.standsAt .elements first.type))
      (Builder.newCollection ⟨.standard, alive, here⟩ (first :: rest)) fun _ => True := by
  have all := @judgedBy_newInstance_collection alive here ⟨here, .collection first.type⟩ _ (first :: rest) rfl
  have self : (Condition.standsAt .elements first.type first).holds := Shape.promotesTo_refl _
  refine ⟨?_, fun _ _ => trivial, ?_⟩
  · rw [Builder.newCollection, all.accepted, List.map_cons, List.forall_mem_cons, and_iff_right self]
  · intro cause
    rw [Builder.newCollection, all.rejected, List.map_cons, firstFault_cons_iff,
      or_iff_right fun h => h.1 self, and_iff_right self]

/-- The properties of a key are found, whichever declarations they come from. -/
theorem keyProperties_eq_ok (entity : Entity) : Builder.keyProperties entity = .ok entity.keyProperties :=
  Builder.keyProperties_eq_ok_iff.mpr entity.forall₂_keyProperties

/-- Keys are judged by position, and there is no row of none. -/
theorem judgedBy_ref (set : EntitySet) (keys : List Expr) :
    JudgedBy (Condition.byPosition .keys (set.entity.keyProperties.map (·.type)) keys ++
        [.madeOf ⟨here.child 0, Builder.rowShape (set.entity.keyMembers.zip keys)⟩ keys])
      (Builder.ref ⟨.standard, alive, here⟩ set keys) fun _ => True := by
  have declared : (set.entity.keyProperties.map (·.type)).length = set.entity.keyMembers.length := by
    rw [List.length_map, EntityType.length_keyProperties]
  rw [Condition.byPosition, declared, Builder.ref, keyProperties_eq_ok]
  apply (judgedBy_requireCount _ _).bind_cons
  intro _ count
  apply (judgedBy_requireEach _ keys).bind
  intro _ _
  have row := @judgedBy_newRow alive (here.child 0) (set.entity.keyMembers.zip keys)
  rw [List.map_snd_zip (Nat.le_of_eq count.symm)] at row
  -- the type of a reference is a reference type
  exact row.bind_of_ok fun _ _ => ⟨_, rfl, trivial⟩

/-- What is found to be a reference is one to an entity, so the node finds nothing more to object to. -/
theorem judgedBy_deref (reference : Expr) :
    JudgedBy [.meets .reference .referenceType reference.type]
      (Builder.deref ⟨.standard, alive, here⟩ reference) fun _ => True := by
  obtain ⟨⟨h, shape⟩, node⟩ := reference
  apply judgedBy_cons
  · rintro ⟨⟩
    exact judgedBy_nil rfl
  · intro other
    refine ⟨_, ?_, fun _ => Iff.rfl⟩
    cases shape with
    | reference _ => exact absurd .reference other
    | _ => rfl

theorem judgedBy_compare (operator : Comparison) (left right : Expr) :
    JudgedBy [.compares operator left right]
      (Builder.compare ⟨.standard, alive, here⟩ operator left right) fun _ => True := by
  refine (judgedBy_require (k := .compares operator left right) ?_ fun _ => Iff.rfl).into
  rw [Bool.and_eq_true]
  exact Expr.standard_comparable_iff

theorem judgedBy_booleans {make : Expr} (left right : Expr) :
    JudgedBy [.meets .left .booleanType left.type, .meets .right .booleanType right.type]
      (do
        Expr.requireBoolean .standard .left left
        Expr.requireBoolean .standard .right right
        return make)
      fun _ => True := by
  apply (judgedBy_boolean left).bind_cons
  intro _ _
  exact (judgedBy_boolean right).into

theorem judgedBy_isNull (argument : Expr) :
    JudgedBy [.meets .argument .nonCollectionType argument.type]
      (Builder.isNull ⟨.standard, alive, here⟩ argument) fun _ => True :=
  (judgedBy_meets TypeRules.standard_isCollection_eq_false_iff_met).into

/-- The name of the variable is looked at only when there are elements to name. -/
theorem judgedBy_bind (source : Expr) (name : String) :
    JudgedBy [.meets .expression .collectionType source.type, .named name]
      (Builder.bind ⟨.standard, alive, here⟩ source name) fun _ => True := by
  obtain ⟨⟨h, shape⟩, node⟩ := source
  apply judgedBy_cons
  · rintro ⟨⟩
    exact (judgedBy_variable name _).into
  · intro other
    refine ⟨_, ?_, fun _ => Iff.rfl⟩
    cases shape with
    | collection _ => exact absurd .collection other
    | _ => rfl

end Builder
end EntityQuery
