import EntityQuery.Proofs.Builder.Acceptance
import EntityQuery.Proofs.Lifetime.Declaring
import EntityQuery.Proofs.Types.Standard
/-!
# `Proofs.Builder.Navigation` — two ways over a relationship

A relationship can be followed by a navigation property, from an instance, and by a walk between its ends, from
a reference. The two are checked and typed apart. A navigation property is of a type that was settled when it
was declared, and asks whether the instance is of the entity it starts from; a walk takes its type from the end it
leads to, asks the same of what the reference points at, and also whether the relationship is still there and both
ends are its own. For the ends of a navigation property all this comes to the same, in every session that has the
property: having it keeps the relationship alive.

## Contents
* `RelationshipEnd.Gives` — the type that following a relationship gives, by the multiplicity of the end.
* `Builder.exists_navigationProperty_iff`, `Builder.exists_navigate_iff` — when each of the two is accepted.
* `Session.alive_of_owns_navigation` — the relationship of a navigation property that a session has.
* `Session.navigations_agree` — the two ways agree.
-/

namespace EntityQuery

/-! ## Types -/

/-- **What is found at an end:** a single one, or a collection of such where there may be many. -/
def RelationshipEnd.Gives (e : RelationshipEnd) (single s : EdmShape) : Prop :=
  if e.multiplicity = .many then ∃ t, s = .collection t ∧ t.shape = single else s = single

section Types

variable {e : RelationshipEnd} {single s : EdmShape}

theorem RelationshipEnd.gives_of_atMostOne (one : e.isAtMostOne = true) (h : s = single) : e.Gives single s := by
  unfold Gives
  rw [if_neg (isAtMostOne_iff.mp one)]
  exact h

theorem RelationshipEnd.gives_of_many (many : ¬ e.isAtMostOne = true) {t : TypeUse} (h : s = .collection t)
    (element : t.shape = single) : e.Gives single s := by
  rw [isAtMostOne_iff, not_not] at many
  unfold Gives
  rw [if_pos many]
  exact ⟨t, h, element⟩

/-- At an end for one, a single one is found. -/
theorem RelationshipEnd.Gives.eq_of_atMostOne (gives : e.Gives single s) (one : e.isAtMostOne = true) :
    s = single := by
  unfold Gives at gives
  rwa [if_neg (isAtMostOne_iff.mp one)] at gives

/-- A navigation property gives entities. -/
theorem NavigationProperty.gives_type (n : NavigationProperty) :
    n.toEnd.Gives (.entity n.toEnd.entity) n.type.shape := by
  unfold type
  by_cases one : n.toEnd.isAtMostOne = true
  · rw [if_pos one]
    exact RelationshipEnd.gives_of_atMostOne one rfl
  · rw [if_neg one]
    exact RelationshipEnd.gives_of_many one rfl rfl

/-- A walk gives references. -/
theorem Builder.gives_navigationType (b : Builder) (toEnd : RelationshipEnd) :
    toEnd.Gives (.reference toEnd.entity) (b.navigationType toEnd).shape := by
  unfold navigationType
  by_cases one : toEnd.isAtMostOne = true
  · rw [if_pos one]
    exact RelationshipEnd.gives_of_atMostOne one rfl
  · rw [if_neg one]
    exact RelationshipEnd.gives_of_many one rfl rfl

end Types

/-! ## Acceptance -/

namespace Builder

variable {alive : Handle → Bool} {here : Handle} {entity : Entity}

/-- A navigation property is read off instances of the entity it starts from, and of those that derive from
    it. -/
theorem exists_navigationProperty_iff {object : Expr} {n : NavigationProperty}
    (shape : object.type.shape = .entity entity) :
    (∃ e, navigationProperty ⟨.standard, alive, here⟩ object n = .ok e) ↔ entity.IsA n.fromEnd.entity := by
  simp only [navigationProperty_eq_ok_iff, shape, TypeRules.standard_covers_entity_iff]
  constructor
  · rintro ⟨_, ⟨_, same, isA⟩, _⟩
    cases same
    exact isA
  · intro isA
    exact ⟨_, ⟨entity, rfl, isA⟩, rfl⟩

/-- A walk starts from references to the entity at its first end, and to those that derive from it, while the
    relationship of the ends is alive. -/
theorem exists_navigate_iff {source : Expr} {fromEnd toEnd : RelationshipEnd}
    (shape : source.type.shape = .reference entity) :
    (∃ e, navigate ⟨.standard, alive, here⟩ source fromEnd toEnd = .ok e) ↔
      alive fromEnd.relationship.id = true ∧ entity.IsA fromEnd.entity ∧
        toEnd.isDeclaredBy fromEnd.relationship = true := by
  simp only [navigate_eq_ok_iff, shape, TypeRules.standard_covers_reference_iff]
  constructor
  · rintro ⟨_, living, ⟨_, same, isA⟩, declared, _⟩
    cases same
    exact ⟨living, isA, declared⟩
  · rintro ⟨living, isA, declared⟩
    exact ⟨_, living, ⟨entity, rfl, isA⟩, declared, rfl⟩

/-- What a reference points at can be had. -/
theorem exists_deref {reference : Expr} (shape : reference.type.shape = .reference entity) :
    ∃ e, deref ⟨.standard, alive, here⟩ reference = .ok e ∧ e.type.shape = .entity entity := by
  refine ⟨_, deref_eq_ok_iff.mpr ⟨entity, ?_, rfl, ?_, rfl⟩, rfl⟩
  · exact TypeRules.standard_referenceTarget?_eq_some_iff.mpr shape
  · exact TypeRules.standard_isReference_iff.mpr ⟨entity, shape⟩

/-- **Both or neither.** While its relationship is alive, a navigation property is read off an instance exactly
    when the walk between its ends starts from a reference to such an instance. -/
theorem exists_navigationProperty_iff_exists_navigate {n : NavigationProperty} {object source : Expr}
    (living : alive n.relationship.id = true) (found : object.type.shape = .entity entity)
    (reference : source.type.shape = .reference entity) :
    (∃ e, navigationProperty ⟨.standard, alive, here⟩ object n = .ok e) ↔
      ∃ e, navigate ⟨.standard, alive, here⟩ source n.fromEnd n.toEnd = .ok e := by
  rw [exists_navigationProperty_iff found, exists_navigate_iff reference]
  constructor
  · intro isA
    -- both ends of the property are of the relationship that it is over
    exact ⟨living, isA, RelationshipEnd.isDeclaredBy_self n.toEnd⟩
  · rintro ⟨_, isA, _⟩
    exact isA

end Builder

/-! ## Sessions -/

namespace Session

/-- Having a navigation property keeps its relationship alive. -/
theorem alive_of_owns_navigation {s : Session} (orderly : s.Orderly) {n : NavigationProperty}
    (has : s.Owns (.navigation n)) : s.alive n.relationship.id = true := by
  apply (alive_iff orderly.traced).mpr
  have edge : (Value.navigation n).Reaches (.relationship n.relationship) :=
    Value.reaches_of_mem_owned List.mem_cons_self
  exact ⟨n.relationship, has.trans edge, rfl⟩

/-- **Two ways over a relationship agree.** In every session that has a navigation property, whatever its ends:
    it is read off an instance of an entity exactly when the walk over its ends starts from a reference to that
    entity, which is when the entity is that of the first end or derives from it. What is read is then the entity
    at the target, and what is walked to a reference to that entity, or both are collections of such where there
    may be many. Where there is at most one, following the reference gives what is read. -/
theorem navigations_agree (actions : List Action) {n : NavigationProperty} {entity : Entity}
    {object source : Expr} (has : (empty.play .standard actions).Owns (.navigation n))
    (found : object.type.shape = .entity entity) (reference : source.type.shape = .reference entity) :
    let b := (empty.play .standard actions).builder .standard
    ((∃ p, b.navigationProperty object n = .ok p) ↔ ∃ w, b.navigate source n.fromEnd n.toEnd = .ok w) ∧
      ((∃ p, b.navigationProperty object n = .ok p) ↔ entity.IsA n.fromEnd.entity) ∧
      ∀ p w, b.navigationProperty object n = .ok p → b.navigate source n.fromEnd n.toEnd = .ok w →
        n.toEnd.Gives (.entity n.toEnd.entity) p.type.shape ∧
        n.toEnd.Gives (.reference n.toEnd.entity) w.type.shape ∧
        (n.toEnd.isAtMostOne = true → ∃ d, b.deref w = .ok d ∧ d.type.shape.equals p.type.shape = true) := by
  intro b
  have extract : TypeRules.standard.Extract := TypeRules.extract_of_same rfl rfl
  have living := alive_of_owns_navigation (orderly_empty.play extract actions) has
  refine ⟨?_, Builder.exists_navigationProperty_iff found, ?_⟩
  · exact Builder.exists_navigationProperty_iff_exists_navigate living found reference
  intro p w read walked
  have entities : n.toEnd.Gives (.entity n.toEnd.entity) p.type.shape := by
    obtain ⟨_, rfl⟩ := Builder.navigationProperty_eq_ok_iff.mp read
    exact n.gives_type
  have references : n.toEnd.Gives (.reference n.toEnd.entity) w.type.shape := by
    obtain ⟨_, _, _, rfl⟩ := Builder.navigate_eq_ok_iff.mp walked
    exact b.gives_navigationType n.toEnd
  refine ⟨entities, references, ?_⟩
  intro one
  obtain ⟨d, followed, shape⟩ := Builder.exists_deref (references.eq_of_atMostOne one)
  refine ⟨d, followed, ?_⟩
  rw [shape, entities.eq_of_atMostOne one]
  exact Shape.equals_refl _

/-- Students are persons, and a person may have a mentor; the relationship is kept by the property alone. -/
def mentorOfPerson : List Action := [
  .step (.make (some "Person") (.model (.entity ⟨"Town", "Person"⟩ none [⟨⟨"Id", .primitive .int32⟩, true⟩]))),
  .step (.make (some "Student") (.model (.entity ⟨"Town", "Student"⟩ (some "Person") []))),
  .step (.make (some "Mentoring") (.model (.relationship ⟨"Town", "Mentoring"⟩
    [⟨"Mentored", "Person", .many⟩, ⟨"Mentor", "Person", .zeroOrOne⟩]))),
  .step (.make (some "mentor") (.model (.navigation "Mentor" "Mentoring" "Mentored" "Mentor"))),
  .step (.drop ["Mentoring"])]

/-- A student's mentor can be read, and walked to. -/
theorem navigations_agree_mentorOfStudent :
    let s := empty.play .standard mentorOfPerson
    ∃ n student, s.find? "mentor" = some (.navigation n) ∧ s.find? "Student" = some (.entity student) ∧
      s.Owns (.navigation n) ∧ n.toEnd.isAtMostOne = true ∧
      (∃ p, (s.builder .standard).navigationProperty ⟨⟨.root 9, .entity student⟩, .null⟩ n = .ok p) ∧
      ∃ w, (s.builder .standard).navigate ⟨⟨.root 10, .reference student⟩, .null⟩ n.fromEnd n.toEnd = .ok w := by
  intro s
  obtain ⟨n, student, property, type, one, read⟩ : ∃ n student, s.find? "mentor" = some (.navigation n) ∧
      s.find? "Student" = some (.entity student) ∧ n.toEnd.isAtMostOne = true ∧
      ∃ p, (s.builder .standard).navigationProperty ⟨⟨.root 9, .entity student⟩, .null⟩ n = .ok p := by
    refine ⟨_, _, rfl, rfl, rfl, ?_⟩
    exact ⟨_, rfl⟩
  have has : s.Owns (.navigation n) := owns_of_find? property
  obtain ⟨both, _⟩ := @navigations_agree mentorOfPerson n student ⟨⟨.root 9, .entity student⟩, .null⟩
    ⟨⟨.root 10, .reference student⟩, .null⟩ has rfl rfl
  exact ⟨n, student, property, type, has, one, read, both.mp read⟩

end Session
end EntityQuery
