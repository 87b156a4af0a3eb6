import EntityQuery.Proofs.Typing.Soundness
/-!
# `Proofs.Typing.Coherence` — what every node satisfies, whichever way it was made

The builder derives the type of what it makes; a node under an explicit type is only checked. Both leave the
same few facts behind: the ones that a pass may rely on without asking again. A node is **coherent** when the
facts for its kind hold. They speak of the node and the types of its children only, so an expression of
coherent nodes stays coherent as part of a larger one.

What the builder makes is typed, and typed nodes are coherent. For a node under an explicit type each fact is
one that its own check enforces.

## Contents
* `Expr.Coherent` — the facts, kind by kind.
* `Expr.Typed.coherent`, `Expr.Given.coherent` — both ways to make a node lead to coherent nodes.
* `Session.coherent_of_run` — coherence of all nodes in all runs.
-/

namespace EntityQuery

/-! ## The facts -/

/-- **A scalar carried by a kind.** The primitive of the kind, or an enumeration over it. -/
def Shape.IsCarriedBy (s : EdmShape) (kind : Primitive) : Prop :=
  s = .primitive kind ∨ ∃ t : EnumType, s = .enumeration t ∧ t.underlying = kind

/-- **Coherent.** The facts that hold of a node of each kind. -/
def Expr.Coherent (e : Expr) : Prop :=
  match e.node with
  | .constant value => e.type.shape.IsCarriedBy value.kind
  | .null => True
  | .variableReference name => name ≠ ""
  | .parameterReference name => isParameterName name = true
  | .property member _ => ∀ value, member ≠ .enumMember value
  | .function f arguments =>
      (∃ returned, f.returnType? = some returned ∧ e.type.handle = returned.handle) ∧
        arguments.length = f.parameters.length
  | .lambda l arguments =>
      LambdaOf.WellFormed l ∧ arguments.length = l.formals.length ∧ e.type.handle = l.body.type.handle
  | .navigation relationship fromEnd toEnd _ =>
      fromEnd.isDeclaredBy relationship = true ∧ toEnd.isDeclaredBy relationship = true
  | .newInstance elements related =>
      (elements ≠ [] ∨ ∃ element, e.type.shape = .collection element) ∧
        (e.node.hasRelated = true → ∃ entity, e.type.shape = .entity entity) ∧
        (∀ joined, e.node.related? = some joined → joined ≠ []) ∧
        ∀ r ∈ related, RelatedOf.WellFormed r
  | .ref _ _ => ∃ entity, e.type.shape = .reference entity
  | .deref reference =>
      (∃ entity, e.type.shape = .entity entity) ∧ ∃ target, reference.type.shape = .reference target
  | .scan extent =>
      ∃ element, e.type.shape = .collection element ∧ element.shape.equals extent.elementShape = true
  | .comparison operator left right =>
      e.type.shape = .primitive .boolean ∧ operator.AppliesTo left.type.shape right.type.shape
  | .and left right | .or left right =>
      e.type.shape = .primitive .boolean ∧ left.type.shape = .primitive .boolean ∧
        right.type.shape = .primitive .boolean
  | .not argument => e.type.shape = .primitive .boolean ∧ argument.type.shape = .primitive .boolean
  | .isNull argument =>
      e.type.shape = .primitive .boolean ∧ ∀ element, argument.type.shape ≠ .collection element
  | .filter input predicate =>
      BindingOf.WellFormed input ∧ predicate.type.shape = .primitive .boolean ∧ e.type = input.source.type
  | .project input projection => BindingOf.WellFormed input ∧ e.type.shape = .collection projection.type

/-! ## Carriers and instances -/

theorem Shape.carrier?_eq_some_iff {s : EdmShape} {kind : Primitive} :
    s.carrier? = some kind ↔ s.IsCarriedBy kind := by
  unfold IsCarriedBy
  cases s <;> simp [carrier?]

/-- An instance without related entities is coherent when it has elements or is a collection. -/
theorem Expr.coherent_newInstance {type : TypeUse} {elements : List Expr}
    (h : elements ≠ [] ∨ ∃ element, type.shape = .collection element) :
    Expr.Coherent ⟨type, .newInstance elements []⟩ := by
  refine ⟨h, ?_, ?_, ?_⟩
  · intro some
    exact absurd rfl (Node.hasRelated_iff.mp some)
  · intro joined some
    exact (Node.related?_eq_some_iff.mp some).2
  · intro r hr
    exact absurd hr List.not_mem_nil

/-- An instance of an entity is coherent when it has elements and its related entities are well formed. -/
theorem Expr.coherent_newEntity {type : TypeUse} {elements : List Expr} {related : List Related}
    {entity : Entity} (shape : type.shape = .entity entity)
    (h : elements ≠ [] ∨ ∃ element, type.shape = .collection element)
    (joined : ∀ r ∈ related, RelatedOf.WellFormed r) :
    Expr.Coherent ⟨type, .newInstance elements related⟩ := by
  refine ⟨h, fun _ => ⟨entity, shape⟩, ?_, joined⟩
  intro rs some
  exact (Node.related?_eq_some_iff.mp some).2

/-! ## Both ways to make a node -/

/-- **Typed nodes are coherent.** -/
theorem Expr.Typed.coherent {e : Expr} (typed : e.Typed) : e.Coherent := by
  cases typed with
  | constant carried => exact Shape.carrier?_eq_some_iff.mp carried
  | null => exact trivial
  | variableReference named => exact named
  | parameterReference named => exact named
  | property found declared =>
    -- a value of an enumeration has no type, and the type of the node is the member's
    intro value same
    rw [same] at declared
    exact absurd declared (by simp [Member.type?])
  | navigationProperty entity isA => exact nofun
  | @function type arguments f returned placed =>
    have count : (f.parameters.map (·.type)).length = arguments.length := List.Forall₂.length_eq placed
    rw [List.length_map] at count
    exact ⟨⟨type, returned, rfl⟩, count.symm⟩
  | @lambda l arguments wellFormed placed =>
    have count : (l.formals.map (·.type)).length = arguments.length := List.Forall₂.length_eq placed
    rw [List.length_map] at count
    exact ⟨wellFormed, count.symm, rfl⟩
  | @navigation _ _ _ fromEnd toEnd _ _ sameRelationship _ _ =>
    have declared : toEnd.isDeclaredBy fromEnd.relationship = true := by
      simpa [RelationshipEnd.isDeclaredBy] using sameRelationship
    exact ⟨fromEnd.isDeclaredBy_self, declared⟩
  | entity shape nonempty placed joined => exact coherent_newEntity shape (.inl nonempty) joined
  | complex shape nonempty placed => exact coherent_newInstance (.inl nonempty)
  | row shape nonempty placed => exact coherent_newInstance (.inl nonempty)
  | collection shape each => exact coherent_newInstance (.inr ⟨_, shape⟩)
  | ref shape _ _ _ _ _ => exact ⟨_, shape⟩
  | deref target shape => exact ⟨⟨_, shape⟩, _, target⟩
  | @scan here extent => exact ⟨_, rfl, Shape.equals_refl extent.elementShape⟩
  | comparison boolean applies => exact ⟨boolean, applies⟩
  | and boolean ofLeft ofRight => exact ⟨boolean, ofLeft, ofRight⟩
  | or boolean ofLeft ofRight => exact ⟨boolean, ofLeft, ofRight⟩
  | not boolean ofArgument => exact ⟨boolean, ofArgument⟩
  | isNull boolean single => exact ⟨boolean, single⟩
  | filter wellFormed condition => exact ⟨wellFormed, condition, rfl⟩
  | project wellFormed shape => exact ⟨wellFormed, shape⟩

/-- **Nodes under an explicit type are coherent,** whatever the type, under the standard rules. -/
theorem Expr.Given.coherent {e : Expr} (given : e.Given .standard) : e.Coherent := by
  cases given with
  | property made =>
    obtain ⟨readable, rfl⟩ := mkProperty_eq_ok_iff.mp made
    intro value same
    rw [same] at readable
    exact absurd readable Bool.false_ne_true
  | navigation made =>
    obtain ⟨fromOwn, toOwn, rfl⟩ := mkNavigation_eq_ok_iff.mp made
    exact ⟨fromOwn, toOwn⟩
  | function made =>
    -- the given type is kept, and its handle was compared with the declared one
    obtain ⟨returned, declared, same, count, rfl⟩ := mkFunction_eq_ok_iff.mp made
    exact ⟨⟨returned, declared, same⟩, count.symm⟩
  | lambda lambda made =>
    obtain ⟨same, count, rfl⟩ := mkInvocation_eq_ok_iff.mp made
    exact ⟨lambda.wellFormed, count.symm, same⟩
  | newInstance made =>
    obtain ⟨nonempty, rfl⟩ := mkNewInstance_eq_ok_iff.mp made
    rw [TypeRules.standard_isCollection_iff] at nonempty
    exact coherent_newInstance nonempty
  | newEntity joined made =>
    obtain ⟨isEntity, nonempty, rfl⟩ := mkEntityInstance_eq_ok_iff.mp made
    obtain ⟨entity, shape⟩ := TypeRules.standard_isEntity_iff.mp isEntity
    rw [TypeRules.standard_isCollection_iff] at nonempty
    exact coherent_newEntity shape nonempty fun r hr => (joined r hr).wellFormed
  | ref made =>
    obtain ⟨reference, rfl⟩ := mkRef_eq_ok_iff.mp made
    exact TypeRules.standard_isReference_iff.mp reference
  | deref made =>
    obtain ⟨isEntity, isReference, rfl⟩ := mkDeref_eq_ok_iff.mp made
    exact ⟨TypeRules.standard_isEntity_iff.mp isEntity, TypeRules.standard_isReference_iff.mp isReference⟩
  | scan made =>
    obtain ⟨⟨element, collection, same⟩, rfl⟩ := mkScan_eq_ok_iff.mp made
    exact ⟨element, TypeRules.standard_element?_eq_some_iff.mp collection, same⟩

/-! ## Runs -/

/-- **A coherent value.** All its nodes are coherent, and it is well formed itself. -/
structure Value.Coherent (v : Value) : Prop where
  nodes : ∀ n ∈ v.nodes, n.Coherent
  wellFormed : v.WellFormed

/-- A sound value of coherent nodes is coherent. -/
theorem Value.Sound.coherent {v : Value} (sound : v.Sound .standard Expr.Coherent) : v.Coherent :=
  ⟨sound.nodes, sound.founded.wellFormed⟩

namespace Session

/-- All that a run holds is of coherent nodes, also when it makes nodes under explicit types. -/
theorem sound_coherent_run (steps : List Step) :
    ∀ v, (empty.run .standard steps).Has v → v.Sound .standard Expr.Coherent := by
  refine @sound_run .standard Expr.Coherent true ?_ ?_ steps ?_
  · intro e built
    exact built.typed.coherent
  · intro _ e given
    exact given.coherent
  · intro _ _ _
    rfl

/-- **Coherence.** In any run under the standard rules, which may call the builder and make nodes under any
    explicit types in any order, every value held is of coherent nodes only, and so is every value that a
    further request makes, held or not. -/
theorem coherent_of_run (steps : List Step) :
    (∀ v, (empty.run .standard steps).Has v → v.Coherent) ∧
      ∀ (request : Request) (v : Value),
        (empty.run .standard steps).perform .standard request = .ok v → v.Coherent := by
  have held := sound_coherent_run steps
  constructor
  · intro v hv
    exact (held v hv).coherent
  · intro request v made
    have sound : v.Sound .standard Expr.Coherent := by
      refine @sound_of_perform .standard Expr.Coherent _ true ?_ ?_ held request ?_ v made
      · intro e built
        exact built.typed.coherent
      · intro _ e given
        exact given.coherent
      · intro _
        rfl
    exact sound.coherent

/-- A person made with a related friend whom a function looks up; the scan, the call and the instance are
    each made under an explicit type. -/
def friendUnderExplicitTypes : List Step := [
  .make (some "Person") (.model (.entity ⟨"Town", "Person"⟩ none [⟨⟨"Id", .primitive .int32⟩, true⟩])),
  .make (some "Friends") (.model (.relationship ⟨"Town", "Friends"⟩
    [⟨"Asking", "Person", .many⟩, ⟨"Asked", "Person", .one⟩])),
  .make (some "asking") (.model (.relationshipEnd "Friends" "Asking")),
  .make (some "asked") (.model (.relationshipEnd "Friends" "Asked")),
  .make (some "Oldest") (.model (.function ⟨"Town", "Oldest"⟩ [⟨"among", .collection (.entity "Person")⟩]
    (some (.reference "Person")))),
  .make (some "People") (.model (.entitySet "Town" "People" "Person")),
  .make (some "all") (.node (.collection (.entity "Person")) (.scan "People")),
  .make (some "oldest") (.node (.returnOf "Oldest") (.function "Oldest" ["all"])),
  .make (some "friend") (.build (.related "asking" "asked" "oldest")),
  .make (some "one") (.build (.constant (.literal (.int32 1)))),
  .make (some "asks") (.node (.entity "Person") (.newEntity ["one"] ["friend"]))]

theorem coherent_friendUnderExplicitTypes :
    ∃ e, (empty.run .standard friendUnderExplicitTypes).find? "asks" = some (.expression e) ∧
      e.node.hasRelated = true ∧ e.histogram.total = 4 ∧ (Value.expression e).Coherent := by
  have ⟨held, _⟩ := coherent_of_run friendUnderExplicitTypes
  exact ⟨_, rfl, rfl, rfl, held _ ⟨"asks", rfl⟩⟩

end Session
end EntityQuery
