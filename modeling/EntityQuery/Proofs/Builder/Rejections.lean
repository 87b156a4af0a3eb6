import EntityQuery.Proofs.Builder.PositionalCall
import EntityQuery.Proofs.Typing.RelatedEntities
/-!
# `Proofs.Builder.Rejections` — what the builder refuses

A node refuses a type that it cannot be made under and a member that cannot be read. The builder derives the type
and looks the member up, so neither is ever at fault: no condition of any of its methods is about them, except where
a method is given the type. The conditions of every call stand in one table here, and what a call can be refused
for is read off it.

## Contents
* `Rejection.RefusesType`, `Condition.SparesType` — causes that blame a type, conditions that never do.
* `BuilderCall` with `outcome` and `conditions` — the calls, what comes of them, what they are judged by.
* `BuilderCall.judgedBy_outcome` — every call follows its conditions.
* `BuilderCall.rejected_for_operands` — so derived types are never at fault.
-/

namespace EntityQuery

/-! ## Types that are refused -/

/-- The cause is how a node refuses the type that it is to be made under, or the member that it is to read. -/
def Rejection.RefusesType : Rejection → Prop
  | resultTypeMismatch _ _ _ | invalidMemberKind _ _ => True
  | unexpectedType blamed _ _ => blamed = .resultType
  | _ => False

namespace Condition

/-- The condition never reports that a type is refused. -/
def SparesType (k : Condition) : Prop := ∀ c, k.reported c → ¬ c.RefusesType

/-- No operand by position has its own type to be refused. -/
theorem sparesType_of_mem_byPosition {blamed : Argument} {declared : List TypeUse} {operands : List Expr} :
    ∀ k ∈ byPosition blamed declared operands, k.SparesType := by
  rw [byPosition, List.forall_mem_cons, ← List.map_uncurry_zip_eq_zipWith, List.forall_mem_map]
  constructor
  · rintro _ rfl
    exact not_false
  · rintro ⟨_, _⟩ _ _ rfl
    exact not_false

/-- Operands by position may also have to be some. -/
theorem sparesType_of_mem_byPosition_append {blamed : Argument} {declared : List TypeUse} {operands : List Expr}
    {type : TypeUse} : ∀ k ∈ byPosition blamed declared operands ++ [madeOf type operands], k.SparesType := by
  rw [List.forall_mem_append, List.forall_mem_singleton]
  constructor
  · exact sparesType_of_mem_byPosition
  · rintro _ rfl
    exact not_false

theorem sparesType_of_mem_related {alive : Handle → Bool} {source target : RelationshipEnd} {reference : Expr} :
    ∀ k ∈ Related.conditions alive source target reference, k.SparesType := by
  simp only [Related.conditions, List.forall_mem_cons]
  refine ⟨?_, ?_, ?_, ?_, ?_, List.forall_mem_nil _⟩
  · rintro _ rfl
    exact not_false
  · rintro _ rfl
    exact not_false
  · rintro _ rfl
    exact not_false
  · rintro _ rfl
    exact not_false
  · rintro _ ⟨_, _, rfl⟩
    exact not_false

end Condition

/-! ## The calls -/

/-- A call of the builder, with what it is called on. -/
inductive BuilderCall where
  | constant (value : Literal)
  | constantOf (type : TypeUse) (value : Literal)
  | null (type : TypeUse)
  | variableReference (name : String) (type : TypeUse)
  | parameterReference (name : String) (type : TypeUse)
  | property (object : Expr) (name : String)
  | navigationProperty (object : Expr) (navigation : NavigationProperty)
  | navigate (source : Expr) (fromEnd toEnd : RelationshipEnd)
  | function (function : FunctionDecl) (arguments : List Expr)
  | lambda (formals : List (String × TypeUse)) (body : Expr)
  | invoke (lambda : Lambda) (arguments : List Expr)
  | newRow (columns : List (String × Expr))
  | newInstance (type : TypeUse) (elements : List Expr)
  | newCollection (elements : List Expr)
  | newEmptyCollection (element : TypeUse)
  | newEntity (entity : Entity) (elements : List Expr) (related : List Related)
  | related (source target : RelationshipEnd) (reference : Expr)
  | scan (extent : Extent)
  | ref (set : EntitySet) (keys : List Expr)
  | deref (reference : Expr)
  | compare (operator : Comparison) (left right : Expr)
  | and (left right : Expr)
  | or (left right : Expr)
  | not (argument : Expr)
  | isNull (argument : Expr)
  | bind (source : Expr) (name : String)
  | filter (input : Binding) (predicate : Expr)
  | project (input : Binding) (projection : Expr)

namespace BuilderCall

/-- What comes of a call. -/
def outcome (b : Builder) : BuilderCall → Except Rejection Value
  | constant value => do return .expression (← b.constant value)
  | constantOf type value => do return .expression (← b.constantOf type value)
  | null type => .ok (.expression (b.null type))
  | variableReference name type => do return .expression (← b.variableReference name type)
  | parameterReference name type => do return .expression (← b.parameterReference name type)
  | property object name => do return .expression (← b.property object name)
  | navigationProperty object navigation => do return .expression (← b.navigationProperty object navigation)
  | navigate source fromEnd toEnd => do return .expression (← b.navigate source fromEnd toEnd)
  | function f arguments => do return .expression (← b.function f arguments)
  | lambda formals body => do return .lambda (← b.lambda formals body)
  | invoke l arguments => do return .expression (← b.invoke l arguments)
  | newRow columns => do return .expression (← b.newRow columns)
  | newInstance type elements => do return .expression (← b.newInstance type elements)
  | newCollection elements => do return .expression (← b.newCollection elements)
  | newEmptyCollection element => do return .expression (← b.newEmptyCollection element)
  | newEntity entity elements joined => do return .expression (← b.newEntity entity elements joined)
  | related source target reference => do return .related (← b.related source target reference)
  | scan extent => do return .expression (← b.scan extent)
  | ref set keys => do return .expression (← b.ref set keys)
  | deref reference => do return .expression (← b.deref reference)
  | compare operator left right => do return .expression (← b.compare operator left right)
  | and left right => do return .expression (← b.and left right)
  | or left right => do return .expression (← b.or left right)
  | not argument => do return .expression (← b.not argument)
  | isNull argument => do return .expression (← b.isNull argument)
  | bind source name => do return .binding (← b.bind source name)
  | filter input predicate => do return .expression (← b.filter input predicate)
  | project input projection => .ok (.expression (b.project input projection))

/-- **The conditions on a call,** in the order in which they are judged. A collection of elements is of the type
    of the first, so only those after it are judged. -/
def conditions (b : Builder) : BuilderCall → List Condition
  | constant _ | null _ | newEmptyCollection _ | scan _ | project _ _ => []
  | constantOf type value => [.meets .resultType .scalarType type, .carries type value]
  | variableReference name _ => [.named name]
  | parameterReference name _ => [.namesParameter name]
  | property object name => [.hasMember object name]
  | navigationProperty object navigation => [.isInstance navigation.fromEnd.entity object]
  | navigate source fromEnd toEnd =>
      [.joins b.alive fromEnd, .refersTo fromEnd.entity source, .endOf fromEnd.relationship toEnd]
  | function f arguments => .returns f :: Condition.byPosition .arguments (f.parameters.map (·.type)) arguments
  | lambda formals _ => formals.map (fun v => .named v.1) ++ [.distinct (formals.map (·.1))]
  | invoke l arguments => Condition.byPosition .arguments (l.formals.map (·.type)) arguments
  | newRow columns => [.madeOf ⟨b.here, Builder.rowShape columns⟩ (columns.map (·.2))]
  | newInstance type elements => Condition.ofInstance type elements
  | newCollection [] => [.first []]
  | newCollection (first :: rest) => rest.map (.standsAt .elements first.type)
  | newEntity entity elements _ => Condition.byPosition .elements (entity.properties.map (·.type)) elements ++
      [.madeOf ⟨b.here, .entity entity⟩ elements]
  | related source target reference => Related.conditions b.alive source target reference
  | ref set keys => Condition.byPosition .keys (set.entity.keyProperties.map (·.type)) keys ++
      [.madeOf ⟨b.here.child 0, Builder.rowShape (set.entity.keyMembers.zip keys)⟩ keys]
  | deref reference => [.meets .reference .referenceType reference.type]
  | compare operator left right => [.compares operator left right]
  | and left right | or left right =>
      [.meets .left .booleanType left.type, .meets .right .booleanType right.type]
  | not argument => [.meets .argument .booleanType argument.type]
  | isNull argument => [.meets .argument .nonCollectionType argument.type]
  | bind source name => [.meets .expression .collectionType source.type, .named name]
  | filter _ predicate => [.meets .predicate .booleanType predicate.type]

/-! ## Every call follows its conditions -/

/-- **Every call follows its conditions:** it succeeds exactly when all hold, and otherwise it is refused for the
    first that does not. -/
theorem judgedBy_outcome (alive : Handle → Bool) (here : Handle) (call : BuilderCall) :
    JudgedBy (call.conditions ⟨.standard, alive, here⟩) (call.outcome ⟨.standard, alive, here⟩)
      fun _ => True := by
  cases call with
  | constant value => exact (Builder.judgedBy_constant value).into
  | null type => exact judgedBy_nil rfl
  | newEmptyCollection element => exact (Builder.judgedBy_newEmptyCollection element).into
  | scan extent => exact (Builder.judgedBy_scan extent).into
  | project input projection => exact judgedBy_nil rfl
  | constantOf type value => exact (Builder.judgedBy_constantOf type value).into
  | variableReference name type => exact (Builder.judgedBy_variable name type).into.into
  | parameterReference name type => exact (Builder.judgedBy_parameterReference name type).into
  | property object name => exact (Builder.judgedBy_property object name).into
  | navigationProperty object n => exact (Builder.judgedBy_navigationProperty object n).into
  | navigate source fromEnd toEnd => exact (Builder.judgedBy_navigate source fromEnd toEnd).into
  | function f arguments => exact (Builder.judgedBy_function f arguments).into
  | lambda formals body => exact (Builder.judgedBy_lambda formals body).into
  | invoke l arguments => exact (Builder.judgedBy_invoke l arguments).into
  | newRow columns => exact (Builder.judgedBy_newRow columns).into
  | newInstance type elements => exact (Builder.judgedBy_newInstance type elements).into
  | newCollection elements =>
    cases elements with
    | nil =>
      refine judgedBy_cons (fun given => absurd rfl given) ?_
      intro _
      exact ⟨_, rfl, fun _ => Iff.rfl⟩
    | cons first rest => exact (Builder.judgedBy_newCollection first rest).into
  | newEntity entity elements joined => exact (Builder.judgedBy_newEntity entity elements joined).into
  | related source target reference => exact Related.judgedBy_make.into
  | ref set keys => exact (Builder.judgedBy_ref set keys).into
  | deref reference => exact (Builder.judgedBy_deref reference).into
  | compare operator left right => exact (Builder.judgedBy_compare operator left right).into
  | and left right => exact (Builder.judgedBy_booleans left right).into
  | or left right => exact (Builder.judgedBy_booleans left right).into
  | not argument => exact (Builder.judgedBy_boolean argument).into.into
  | isNull argument => exact (Builder.judgedBy_isNull argument).into
  | bind source name => exact (Builder.judgedBy_bind source name).into
  | filter input predicate => exact (Builder.judgedBy_boolean predicate).into.into

/-! ## Causes -/

/-- The calls that are given the type to make something under. -/
inductive GivesType : BuilderCall → Prop
  | constantOf {type : TypeUse} {value : Literal} : GivesType (.constantOf type value)
  | newInstance {type : TypeUse} {elements : List Expr} : GivesType (.newInstance type elements)

/-- The calls that ask nothing of what they are called on. -/
inductive AsksNothing : BuilderCall → Prop
  | constant {value : Literal} : AsksNothing (.constant value)
  | null {type : TypeUse} : AsksNothing (.null type)
  | newEmptyCollection {element : TypeUse} : AsksNothing (.newEmptyCollection element)
  | newCollection {element : Expr} : AsksNothing (.newCollection [element])
  | scan {extent : Extent} : AsksNothing (.scan extent)
  | project {input : Binding} {projection : Expr} : AsksNothing (.project input projection)

section Causes

variable {b : Builder} {alive : Handle → Bool} {here : Handle} {call : BuilderCall} {cause : Rejection}

/-- **Only a given type is refused.** No condition of a call that derives its type reports anything about the
    type. -/
theorem sparesType_of_mem_conditions (derives : ¬ call.GivesType) : ∀ k ∈ call.conditions b, k.SparesType := by
  cases call with
  | constantOf _ _ => exact absurd .constantOf derives
  | newInstance _ _ => exact absurd .newInstance derives
  | constant _ | null _ | newEmptyCollection _ | scan _ | project _ _ => exact List.forall_mem_nil _
  | invoke l arguments => exact Condition.sparesType_of_mem_byPosition
  | newEntity entity elements joined => exact Condition.sparesType_of_mem_byPosition_append
  | ref set keys => exact Condition.sparesType_of_mem_byPosition_append
  | related source target reference => exact Condition.sparesType_of_mem_related
  | function f arguments =>
    rw [conditions, List.forall_mem_cons]
    constructor
    · rintro _ rfl
      exact nofun
    · exact Condition.sparesType_of_mem_byPosition
  | lambda formals body =>
    rw [conditions, List.forall_mem_append, List.forall_mem_map, List.forall_mem_singleton]
    constructor
    · rintro _ _ _ rfl
      exact not_false
    · rintro _ ⟨_, _, _, _, _, _, rfl⟩
      exact not_false
  | newCollection elements =>
    cases elements with
    | nil =>
      rw [conditions, List.forall_mem_singleton]
      rintro _ rfl
      exact not_false
    | cons first rest =>
      rw [conditions, List.forall_mem_map]
      rintro _ _ _ rfl
      exact not_false
  | _ =>
    -- one or two conditions, each of which reports one cause
    simp [conditions, Condition.SparesType, Condition.meets, Condition.named, Condition.namesParameter,
      Condition.hasMember, Condition.isInstance, Condition.refersTo, Condition.joins, Condition.endOf,
      Condition.madeOf, Condition.compares, Rejection.RefusesType]

/-- A call is refused for the first of its conditions that does not hold. -/
theorem fault_of_error (refused : call.outcome ⟨.standard, alive, here⟩ = .error cause) :
    FirstFault cause (call.conditions ⟨.standard, alive, here⟩) :=
  ((judgedBy_outcome alive here call).rejected cause).mp refused

/-- A type that is given is refused for its kind. -/
theorem eq_unexpectedType_of_givesType (gives : call.GivesType) {k : Condition} (hk : k ∈ call.conditions b)
    (reported : k.reported cause) (refuses : cause.RefusesType) :
    ∃ requirement found, cause = .unexpectedType .resultType requirement found := by
  cases gives with
  | constantOf =>
    rcases List.mem_pair.mp hk with rfl | rfl
    · exact ⟨_, _, reported⟩
    · obtain rfl := reported
      exact absurd refuses not_false
  | @newInstance type elements =>
    by_cases collection : ∃ element, type.shape = .collection element
    · obtain ⟨element, shape⟩ := collection
      rw [conditions, Condition.ofInstance_collection elements shape] at hk
      obtain ⟨_, _, rfl⟩ := List.mem_map.mp hk
      obtain rfl := reported
      exact absurd refuses not_false
    · rw [not_exists] at collection
      rw [conditions, Condition.ofInstance_of_single elements collection] at hk
      rcases List.mem_cons.mp hk with rfl | hk
      · exact ⟨_, _, reported⟩
      · exact absurd refuses (Condition.sparesType_of_mem_byPosition_append k hk cause reported)

/-- Whatever a call is refused for, its type is refused only when it was given, and then for its kind. -/
theorem refusesType_of_error (refused : call.outcome ⟨.standard, alive, here⟩ = .error cause)
    (refuses : cause.RefusesType) :
    call.GivesType ∧ ∃ requirement found, cause = .unexpectedType .resultType requirement found := by
  obtain ⟨k, hk, _, reported⟩ := (fault_of_error refused).exists_mem
  by_cases gives : call.GivesType
  · exact ⟨gives, eq_unexpectedType_of_givesType gives hk reported refuses⟩
  · exact absurd refuses (sparesType_of_mem_conditions gives k hk cause reported)

/-- A call that asks nothing succeeds. -/
theorem exists_ok_of_asksNothing (nothing : call.AsksNothing) :
    ∃ v, call.outcome ⟨.standard, alive, here⟩ = .ok v := by
  apply (judgedBy_outcome alive here call).accepted.mpr
  cases nothing <;> exact List.forall_mem_nil _

/-- The first of the elements is never at fault. -/
theorem cause_of_newCollection {elements : List Expr}
    (refused : (newCollection elements).outcome ⟨.standard, alive, here⟩ = .error cause) :
    elements = [] ∧ cause = .emptyArgument .elements ∨
      ∃ first before e after, elements = first :: (before ++ e :: after) ∧
        ¬ e.type.shape.promotesTo first.type.shape = true ∧
        cause = .valueTypeMismatch .elements first.type.text e.type.text := by
  have fault := fault_of_error refused
  cases elements with
  | nil => exact .inl ⟨rfl, (firstFault_singleton_iff.mp fault).2⟩
  | cons first rest =>
    obtain ⟨before, e, after, rfl, _, misfit⟩ := Condition.firstFault_map_standsAt_iff.mp fault
    exact .inr ⟨first, before, e, after, rfl, misfit⟩

/-- A reference is refused for the number of keys, a key at its place, or there being none. -/
theorem ne_unknownMember_of_ref {set : EntitySet} {keys : List Expr}
    (refused : (ref set keys).outcome ⟨.standard, alive, here⟩ = .error cause) :
    ∀ typeName member, cause ≠ .unknownMember typeName member := by
  have fault := fault_of_error refused
  rintro typeName member rfl
  rcases firstFault_append_iff.mp fault with positions | ⟨_, empty⟩
  · rcases Condition.cause_of_firstFault_byPosition positions with count | ⟨t, e, _, misfit⟩
    · exact absurd count (by simp)
    · exact absurd misfit (by simp)
  · exact absurd (firstFault_singleton_iff.mp empty).2 (by simp [Condition.madeOf])

/-- **Derived types are never at fault.** Whatever is alive and wherever the call is made: every call is refused
    for the first of its conditions, and never for a type or a member that the node does not take, except for a
    given type that is of the wrong kind. Members of a key always name properties, so no reference is refused for
    an unknown one. Calls that ask nothing succeed. A property is refused only when there is no such member, a
    dereference only when the operand is no reference, and a collection only when it has no element or when one
    after the first may not stand for an element. -/
theorem rejected_for_operands (alive : Handle → Bool) (here : Handle) :
    let b : Builder := ⟨.standard, alive, here⟩
    (∀ call : BuilderCall, JudgedBy (call.conditions b) (call.outcome b) fun _ => True) ∧
    (∀ (call : BuilderCall) (cause : Rejection), call.outcome b = .error cause →
      (∀ blamed expected found, cause ≠ .resultTypeMismatch blamed expected found) ∧
      (∀ blamed member, cause ≠ .invalidMemberKind blamed member) ∧
      ∀ requirement found, cause = .unexpectedType .resultType requirement found → call.GivesType) ∧
    (∀ (entity : Entity) (name : String), name ∈ entity.keyMembers → ∃ p, entity.property? name = some p) ∧
    (∀ (set : EntitySet) (keys : List Expr) (typeName member : String),
      (ref set keys).outcome b ≠ .error (.unknownMember typeName member)) ∧
    (∀ call : BuilderCall, call.AsksNothing → ∃ v, call.outcome b = .ok v) ∧
    (∀ (object : Expr) (name : String) (cause : Rejection), (property object name).outcome b = .error cause →
      cause = .unknownMember object.type.text name) ∧
    (∀ (reference : Expr) (cause : Rejection), (deref reference).outcome b = .error cause →
      cause = .unexpectedType .reference .referenceType reference.type.text) ∧
    ∀ (elements : List Expr) (cause : Rejection), (newCollection elements).outcome b = .error cause →
      elements = [] ∧ cause = .emptyArgument .elements ∨
        ∃ first before e after, elements = first :: (before ++ e :: after) ∧
          ¬ e.type.shape.promotesTo first.type.shape = true ∧
          cause = .valueTypeMismatch .elements first.type.text e.type.text := by
  intro b
  refine ⟨judgedBy_outcome alive here, ?_, ?_, ?_, ?_, ?_, ?_, ?_⟩
  · intro call cause refused
    refine ⟨?_, ?_, ?_⟩
    · rintro blamed expected found rfl
      obtain ⟨_, _, _, same⟩ := refusesType_of_error refused trivial
      exact absurd same (by simp)
    · rintro blamed member rfl
      obtain ⟨_, _, _, same⟩ := refusesType_of_error refused trivial
      exact absurd same (by simp)
    · rintro requirement found rfl
      exact (refusesType_of_error refused rfl).1
  · intro entity name h
    exact EntityType.exists_property?_of_mem_keyMembers h
  · intro set keys typeName member refused
    exact ne_unknownMember_of_ref refused typeName member rfl
  · intro call nothing
    exact exists_ok_of_asksNothing nothing
  · intro object name cause refused
    exact (firstFault_singleton_iff.mp (fault_of_error refused)).2
  · intro reference cause refused
    exact (firstFault_singleton_iff.mp (fault_of_error refused)).2
  · intro elements cause refused
    exact cause_of_newCollection refused

end Causes

/-- A text among numbers is refused, but not a text alone; and a student has the key of a person. -/
theorem rejected_for_operands_numbersAndText :
    let number : Expr := ⟨⟨.root 2, .primitive .int32⟩, .parameterReference "n"⟩
    let text : Expr := ⟨⟨.root 3, .primitive .string⟩, .parameterReference "t"⟩
    let b : Builder := ⟨.standard, fun _ => true, .root 4⟩
    (newCollection [number, number, text]).outcome b =
        .error (.valueTypeMismatch .elements "Edm.Int32" "Edm.String") ∧
      (∃ v, (newCollection [text]).outcome b = .ok v) ∧
      "Id" ∈ PositionalCall.student.keyMembers ∧ ∃ p, PositionalCall.student.property? "Id" = some p := by
  intro number text b
  obtain ⟨judged, _, resolves, _, succeeds, _⟩ := rejected_for_operands b.alive b.here
  have key : "Id" ∈ PositionalCall.student.keyMembers := by decide
  refine ⟨?_, succeeds _ .newCollection, key, resolves _ _ key⟩
  -- the second number stands for the first, the text does not
  have stands : (Condition.standsAt .elements number.type number).holds := Shape.promotesTo_refl _
  have breaks : ¬ (Condition.standsAt .elements number.type text).holds := Bool.false_ne_true
  exact ((judged _).rejected _).mpr (.later stands (.here breaks rfl))

end BuilderCall
end EntityQuery
