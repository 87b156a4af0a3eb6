import EntityQuery.Model.Mention
import EntityQuery.Proofs.Builder.Conditions
/-!
# `Proofs.Builder.PositionalCall` — operands by position, judged alike

Functions, lambdas, instances and references take their operands by position. Each is checked by its own method,
against types that come from different places: parameters, variables, properties with those that are inherited, or
the properties of a key. All the same the four calls follow one list of conditions. A collection takes any number
of operands, each judged by the type of its elements.

## Contents
* `PositionalCall` with `declared`, `HasPlaces`, `Makes` — the calls, the types they declare, what they make.
* `PositionalCall.judgedBy_byPosition` — every such call follows the conditions.
-/

namespace EntityQuery

/-! ## The calls -/

/-- A call that takes operands by position, all but its operands. -/
inductive PositionalCall where
  | function (function : FunctionDecl)
  | invoke (lambda : Lambda)
  | newInstance (type : TypeUse)
  | ref (set : EntitySet)

namespace PositionalCall

/-- The types that the call declares for its operands, in order. For a reference these are the types of the
    properties that make up the key, inherited or not. -/
def declared : PositionalCall → List TypeUse
  | function f => f.parameters.map (·.type)
  | invoke l => l.formals.map (·.type)
  | newInstance type => type.shape.properties.map (·.type)
  | ref set => set.entity.keyProperties.map (·.type)

/-- The input that is blamed when the operands do not fit. -/
def blamed : PositionalCall → Argument
  | function _ | invoke _ => .arguments
  | newInstance _ => .elements
  | ref _ => .keys

/-- The call has places for operands: the function returns something, the type has properties, the entities
    of the set have a key. -/
def HasPlaces : PositionalCall → Prop
  | function f => f.returnType? ≠ none
  | invoke _ => True
  | newInstance type => type.shape.properties ≠ []
  | ref set => set.entity.keyMembers ≠ []

/-- What asking the builder for the call results in. -/
def ask (b : Builder) : PositionalCall → List Expr → Except Rejection Expr
  | function f, operands => b.function f operands
  | invoke l, operands => b.invoke l operands
  | newInstance type, operands => b.newInstance type operands
  | ref set, operands => b.ref set operands

/-- **What a call makes of its operands:** a node that holds all of them, in order and as they are. A reference
    holds a row of them, named by the members of the key. -/
inductive Makes (here : Handle) (operands : List Expr) : PositionalCall → Expr → Prop
  | function {f : FunctionDecl} {returned : TypeUse} (returns : f.returnType? = some returned) :
      Makes here operands (.function f) ⟨returned, .function f operands⟩
  | invoke {l : Lambda} : Makes here operands (.invoke l) ⟨l.body.type, .lambda l operands⟩
  | newInstance {type : TypeUse} : Makes here operands (.newInstance type) ⟨type, .newInstance operands []⟩
  | ref {set : EntitySet} {row : Expr}
      (keys : row = ⟨⟨here.child 0, Builder.rowShape (set.entity.keyMembers.zip operands)⟩,
        .newInstance operands []⟩) :
      Makes here operands (.ref set) ⟨⟨here, .reference set.entity⟩, .ref set row⟩

/-! ## The calls follow the conditions -/

section Calls

variable {alive : Handle → Bool} {here : Handle} (operands : List Expr)

/-- A function that returns something is judged by its parameters. -/
theorem judgedBy_function {f : FunctionDecl} (returns : f.returnType? ≠ none) :
    JudgedBy (Condition.byPosition .arguments (f.parameters.map (·.type)) operands)
      (Builder.function ⟨.standard, alive, here⟩ f operands) (Makes here operands (.function f)) := by
  apply ((Builder.judgedBy_function f operands).of_cons returns).making
  intro e made
  obtain ⟨_, declared, _, rfl⟩ := Builder.function_eq_ok_iff.mp made
  exact .function declared

/-- A lambda is judged by its variables. -/
theorem judgedBy_invoke {l : Lambda} :
    JudgedBy (Condition.byPosition .arguments (l.formals.map (·.type)) operands)
      (Builder.invoke ⟨.standard, alive, here⟩ l operands) (Makes here operands (.invoke l)) := by
  apply (Builder.judgedBy_invoke l operands).making
  intro e made
  obtain ⟨_, rfl⟩ := Builder.invoke_eq_ok_iff.mp made
  exact .invoke

/-- Where there are places, operands that fit them are enough to make something of. -/
theorem madeOf_of_byPosition {blamed : Argument} {declared : List TypeUse} {type : TypeUse}
    (places : declared ≠ []) (all : ∀ k ∈ Condition.byPosition blamed declared operands, k.holds) :
    ∀ k ∈ [Condition.madeOf type operands], k.holds := by
  rw [List.forall_mem_singleton]
  rintro rfl
  have fits := Condition.forall_byPosition_iff.mp all
  exact places (List.forall₂_nil_right_iff.mp fits)

/-- A type with properties is judged by them. -/
theorem judgedBy_newInstance {type : TypeUse} (nonempty : type.shape.properties ≠ []) :
    JudgedBy (Condition.byPosition .elements (type.shape.properties.map (·.type)) operands)
      (Builder.newInstance ⟨.standard, alive, here⟩ type operands) (Makes here operands (.newInstance type)) := by
  have single : ∀ element, type.shape ≠ .collection element := by
    intro element shape
    rw [shape] at nonempty
    exact nonempty rfl
  have structural : Requirement.structuralOrCollectionType.Met type.shape := by
    cases shape : type.shape with
    | entity _ => exact .entity
    | complex _ => exact .complex
    | row _ => exact .row
    | collection element => exact absurd shape (single element)
    | primitive _ | enumeration _ | relationship _ | reference _ =>
      rw [shape] at nonempty
      exact absurd rfl nonempty
  have all := @Builder.judgedBy_newInstance alive here type operands
  rw [Condition.ofInstance_of_single operands single] at all
  have places : type.shape.properties.map (·.type) ≠ [] := List.map_eq_nil_iff.not.mpr nonempty
  apply ((all.of_cons structural).of_append (madeOf_of_byPosition operands places)).making
  intro e made
  obtain ⟨_, _, rfl⟩ := Builder.newInstance_eq_ok_iff.mp made
  exact .newInstance

/-- A reference is judged by the properties of the key. -/
theorem judgedBy_ref {set : EntitySet} (nonempty : set.entity.keyMembers ≠ []) :
    JudgedBy (Condition.byPosition .keys (set.entity.keyProperties.map (·.type)) operands)
      (Builder.ref ⟨.standard, alive, here⟩ set operands) (Makes here operands (.ref set)) := by
  have places : set.entity.keyProperties.map (·.type) ≠ [] := by
    intro none
    apply nonempty
    rw [← List.length_eq_zero_iff, ← EntityType.length_keyProperties, ← List.length_map (·.type), none]
    rfl
  apply ((Builder.judgedBy_ref set operands).of_append (madeOf_of_byPosition operands places)).making
  intro e made
  obtain ⟨_, _, _, _, _, rfl⟩ := Builder.ref_eq_ok_iff.mp made
  exact .ref rfl

/-- A collection is judged by the type of its elements, and takes any number of them. -/
theorem judgedBy_newInstance_collection {h : Handle} {element : TypeUse} :
    JudgedBy (operands.map (.standsAt .elements element))
      (Builder.newInstance ⟨.standard, alive, here⟩ ⟨h, .collection element⟩ operands)
      (· = ⟨⟨h, .collection element⟩, .newInstance operands []⟩) := by
  apply (Builder.judgedBy_newInstance_collection _ element operands rfl).making
  intro e made
  exact (Builder.newInstance_eq_ok_iff.mp made).2.2

/-- **Positional calls check alike.** Whatever is alive and wherever the call is made: a call that has places
    succeeds exactly when there are as many operands as places and each may stand at its place; the node then
    holds all of them, in order and as they are. Otherwise a wrong number is reported before anything else,
    and then the leftmost operand that may not stand at its place. An instance of a collection follows the
    conditions on its elements alone, however many there are. -/
theorem judgedBy_byPosition (alive : Handle → Bool) (here : Handle) :
    (∀ call : PositionalCall, call.HasPlaces → ∀ operands,
      JudgedBy (Condition.byPosition call.blamed call.declared operands)
        (call.ask ⟨.standard, alive, here⟩ operands) (call.Makes here operands)) ∧
    ∀ (h : Handle) (element : TypeUse) (operands : List Expr),
      JudgedBy (operands.map (.standsAt .elements element))
        (Builder.newInstance ⟨.standard, alive, here⟩ ⟨h, .collection element⟩ operands)
        (· = ⟨⟨h, .collection element⟩, .newInstance operands []⟩) := by
  constructor
  · intro call places operands
    cases call with
    | function f => exact judgedBy_function operands places
    | invoke l => exact judgedBy_invoke operands
    | newInstance type => exact judgedBy_newInstance operands places
    | ref set => exact judgedBy_ref operands places
  · intro h element operands
    exact judgedBy_newInstance_collection operands

end Calls

/-- A person has a number for its key. -/
def person : Entity :=
  .root (.declare TypeUse.kept ⟨"Town", "Person"⟩ [⟨⟨"Id", ⟨.root 0, .primitive .int64⟩⟩, true⟩])

/-- A student is a person with a grade. -/
def student : Entity :=
  .derive (.declare TypeUse.kept ⟨"Town", "Student"⟩ [⟨⟨"Grade", ⟨.root 1, .primitive .int16⟩⟩, false⟩]) person

/-- A short number may stand for the inherited key, a text for nothing that a student has; a wrong number of
    keys is reported although the first is no number either. -/
theorem judgedBy_byPosition_student :
    let number : Expr := ⟨⟨.root 2, .primitive .int32⟩, .parameterReference "n"⟩
    let text : Expr := ⟨⟨.root 3, .primitive .string⟩, .parameterReference "t"⟩
    let one : PositionalCall := .newInstance ⟨.root 4, .entity student⟩
    let found : PositionalCall := .ref ⟨"Town", "Students", student⟩
    let b : Builder := ⟨.standard, fun _ => true, .root 5⟩
    one.HasPlaces ∧ found.HasPlaces ∧
      one.ask b [number, text] = .error (.valueTypeMismatch .elements "Edm.Int16" "Edm.String") ∧
      found.ask b [text, number] = .error (.argumentCountMismatch .keys 1 2) ∧
      ∃ e, found.ask b [number] = .ok e := by
  intro number text one found b
  have properties : one.HasPlaces := by
    intro none
    exact absurd (congrArg List.length none) (by decide)
  have keys : found.HasPlaces := by
    intro none
    exact absurd (congrArg List.length none) (by decide)
  obtain ⟨judged, _⟩ := judgedBy_byPosition b.alive b.here
  refine ⟨properties, keys, ?_, ?_, ?_⟩
  · apply ((judged one properties [number, text]).rejected _).mpr
    have misfit : ¬ Shape.promotesTo (.primitive .string) (.primitive .int16) = true := by decide
    exact .later rfl (.later rfl (.here misfit rfl))
  · apply ((judged found keys [text, number]).rejected _).mpr
    have miscounted : ¬ 1 = 2 := by decide
    exact .here miscounted rfl
  · apply (judged found keys [number]).accepted.mpr
    exact Condition.forall_byPosition_iff.mpr (.cons rfl .nil)

end PositionalCall
end EntityQuery
