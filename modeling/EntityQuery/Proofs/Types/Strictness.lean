import EntityQuery.Model.Mention
import EntityQuery.Proofs.Types.Promotion
/-!
# `Proofs.Types.Strictness` — subtyping is a strict order on types

Whether one type is a subtype of another is told by walking up a base chain and comparing names, at the bottom of
as many collections as there are around both. Two declarations of one name are one type, so strictness is not
plain: the walk from one declaration could come upon another of its own name. Over consistent metadata it never
does, and it does not matter which of several declarations of a name is asked.

## Contents
* `Shape.Derives`, `isSubtypeOf_iff` — what subtyping tests.
* `Derives.of_equals_right`, `Derives.of_equals_left` — other declarations of a name.
* `Derives.trans`, `Derives.not_equals` — a third type, one type.
* `Shape.nested`, `isSubtypeOf_nested`, `derives_iff_nested` — collections of collections.
* `isSubtypeOf_strict_order` — the strict order.
-/

namespace EntityQuery

/-- Deriving from an entity type is deriving from any of its name. -/
theorem EntityType.derivesFrom_congr_right {a b c : Entity} (name : b.fullName = c.fullName) :
    a.derivesFrom b = a.derivesFrom c := by
  rw [Bool.eq_iff_iff, derivesFrom_iff, derivesFrom_iff, name]

namespace Shape

/-! ## What subtyping tests -/

/-- **Strict subtypes.** Entities and references go by base chains, collections by their elements; nothing else
    has subtypes. -/
inductive Derives : EdmShape → EdmShape → Prop
  | entity {a b : Entity} : a.derivesFrom b = true → Derives (.entity a) (.entity b)
  | reference {a b : Entity} : a.derivesFrom b = true → Derives (.reference a) (.reference b)
  | collection {a b : TypeUse} : Derives a.shape b.shape → Derives (.collection a) (.collection b)

/-- Collections are subtypes as their elements are. -/
theorem isSubtypeOf_collection (a b : TypeUse) :
    Shape.isSubtypeOf (.collection a) (.collection b) = a.shape.isSubtypeOf b.shape := by
  rw [Shape.isSubtypeOf, TypeUse.isSubtypeOf_eq]

/-- **The test decides the rules.** -/
theorem isSubtypeOf_iff {s t : EdmShape} : s.isSubtypeOf t = true ↔ Derives s t := by
  induction s using inductionOnParts generalizing t with
  | step s ih =>
    constructor
    · intro h
      cases s <;> cases t <;> simp only [Shape.isSubtypeOf, Bool.false_eq_true] at h
      case entity.entity => exact .entity h
      case reference.reference => exact .reference h
      case collection.collection a b =>
        rw [TypeUse.isSubtypeOf_eq] at h
        exact .collection ((ih a (List.mem_singleton_self a)).mp h)
    · intro h
      cases h with
      | entity h => exact h
      | reference h => exact h
      | @collection a b h =>
        rw [isSubtypeOf_collection]
        exact (ih a (List.mem_singleton_self a)).mpr h

theorem isSubtypeOf_eq_false_iff {s t : EdmShape} : s.isSubtypeOf t = false ↔ ¬ Derives s t := by
  rw [← isSubtypeOf_iff, Bool.not_eq_true]

/-! ## The strict order -/

theorem entities_collection (a : TypeUse) : Shape.entities (.collection a) = a.shape.entities := by
  rw [Shape.entities, TypeUse.entities_eq]

section Order

variable {entities : List Entity} {s t u : EdmShape}

/-- What derives from a type derives from it under every declaration of its names. -/
theorem Derives.of_equals_right (h : s.Derives t) (k : t.equals u = true) : s.Derives u := by
  induction h generalizing u with
  | entity h =>
    cases equals_iff.mp k with
    | entity name => exact .entity (EntityType.derivesFrom_congr_right name ▸ h)
  | reference h =>
    cases equals_iff.mp k with
    | reference name => exact .reference (EntityType.derivesFrom_congr_right name ▸ h)
  | collection _ ih =>
    cases equals_iff.mp k with
    | collection elements => exact .collection (ih elements)

/-- What derives from a type does so under every declaration of its own names, where these are consistent. -/
theorem Derives.of_equals_left (consistent : ConsistentEntities entities) (hs : s.entities ⊆ entities)
    (hu : u.entities ⊆ entities) (h : s.Derives t) (k : u.equals s = true) : u.Derives t := by
  induction h generalizing u with
  | @entity a b h =>
    cases equals_iff.mp k with
    | @entity c _ name =>
      have ha : a ∈ entities := hs a.self_mem_lineage
      have hc : c ∈ entities := hu c.self_mem_lineage
      exact .entity (EntityType.derivesFrom_of_fullName_eq consistent hc ha name h)
  | @reference a b h =>
    cases equals_iff.mp k with
    | @reference c _ name =>
      have ha : a ∈ entities := hs a.self_mem_lineage
      have hc : c ∈ entities := hu c.self_mem_lineage
      exact .reference (EntityType.derivesFrom_of_fullName_eq consistent hc ha name h)
  | collection _ ih =>
    cases equals_iff.mp k with
    | collection elements =>
      rw [entities_collection] at hs hu
      exact .collection (ih hs hu elements)

/-- Subtypes of subtypes are subtypes, where the entity types in them are consistent. -/
theorem Derives.trans (consistent : ConsistentEntities entities) (hs : s.entities ⊆ entities)
    (ht : t.entities ⊆ entities) (h : s.Derives t) (k : t.Derives u) : s.Derives u := by
  induction h generalizing u with
  | @entity a b h =>
    cases k with
    | entity k => exact .entity (EntityType.derivesFrom_trans consistent hs (ht b.self_mem_lineage) h k)
  | @reference a b h =>
    cases k with
    | reference k => exact .reference (EntityType.derivesFrom_trans consistent hs (ht b.self_mem_lineage) h k)
  | collection _ ih =>
    cases k with
    | collection k =>
      rw [entities_collection] at hs ht
      exact .collection (ih hs ht k)

/-- **No type is its own subtype,** under whatever declaration, where the entity types in it are consistent. -/
theorem Derives.not_equals (consistent : ConsistentEntities entities) (hs : s.entities ⊆ entities)
    (h : s.Derives t) : s.equals t = false := by
  rw [Bool.eq_false_iff]
  intro one
  induction h with
  | entity h =>
    cases equals_iff.mp one with
    | entity name =>
      rw [EntityType.not_derivesFrom_of_fullName_eq consistent hs name] at h
      exact Bool.false_ne_true h
  | reference h =>
    cases equals_iff.mp one with
    | reference name =>
      rw [EntityType.not_derivesFrom_of_fullName_eq consistent hs name] at h
      exact Bool.false_ne_true h
  | collection _ ih =>
    cases equals_iff.mp one with
    | collection elements =>
      rw [entities_collection] at hs
      exact ih hs elements

theorem Derives.irrefl (consistent : ConsistentEntities entities) (hs : s.entities ⊆ entities) :
    ¬ s.Derives s := by
  intro h
  have other := h.not_equals consistent hs
  rw [equals_refl] at other
  exact Bool.false_ne_true other.symm

end Order

/-! ## Collections of collections -/

/-- A shape inside one collection for each use, the outermost first. -/
def nested : List Handle → EdmShape → EdmShape
  | [], s => s
  | h :: hs, s => .collection ⟨h, nested hs s⟩

/-- Around both shapes, any number of collections makes no difference. -/
theorem isSubtypeOf_nested {hs ks : List Handle} (depth : hs.length = ks.length) (s t : EdmShape) :
    (nested hs s).isSubtypeOf (nested ks t) = s.isSubtypeOf t := by
  induction hs generalizing ks with
  | nil =>
    obtain rfl := List.eq_nil_of_length_eq_zero depth.symm
    rfl
  | cons h hs ih =>
    obtain ⟨k, ks, rfl⟩ := List.exists_cons_of_length_eq_add_one depth.symm
    rw [List.length_cons, List.length_cons, Nat.add_right_cancel_iff] at depth
    exact (isSubtypeOf_collection _ _).trans (ih depth)

/-- **Where subtypes are.** A type is a subtype exactly when it is an entity type, or a reference to one, which
    derives from another, both inside equally many collections. -/
theorem derives_iff_nested {s t : EdmShape} :
    s.Derives t ↔ ∃ (a b : Entity) (hs ks : List Handle), a.derivesFrom b = true ∧ hs.length = ks.length ∧
      ((s = nested hs (.entity a) ∧ t = nested ks (.entity b)) ∨
        (s = nested hs (.reference a) ∧ t = nested ks (.reference b))) := by
  constructor
  · intro h
    induction h with
    | @entity a b h => exact ⟨a, b, [], [], h, rfl, .inl ⟨rfl, rfl⟩⟩
    | @reference a b h => exact ⟨a, b, [], [], h, rfl, .inr ⟨rfl, rfl⟩⟩
    | @collection c d _ ih =>
      obtain ⟨h, s⟩ := c
      obtain ⟨k, t⟩ := d
      obtain ⟨a, b, hs, ks, derives, depth, shapes⟩ := ih
      refine ⟨a, b, h :: hs, k :: ks, derives, congrArg Nat.succ depth, ?_⟩
      rcases shapes with ⟨rfl, rfl⟩ | ⟨rfl, rfl⟩
      · exact .inl ⟨rfl, rfl⟩
      · exact .inr ⟨rfl, rfl⟩
  · rintro ⟨a, b, hs, ks, derives, depth, shapes⟩
    rw [← isSubtypeOf_iff]
    rcases shapes with ⟨rfl, rfl⟩ | ⟨rfl, rfl⟩ <;>
      (rw [isSubtypeOf_nested depth]; exact derives)

/-! ## Over consistent metadata -/

/-- **Subtyping is a strict order.** Over consistent metadata it is irreflexive, asymmetric and transitive, and
    never holds of two types that are one. It does not change when either type is put in another form that is
    the same type. And it is all read off base chains: the subtypes are the entity types that derive from
    others, the references to them, and the collections of these at any depth, and at each of these places the
    answer is the same. -/
theorem isSubtypeOf_strict_order :
    (∀ a b c : EdmShape, Consistent [a, b, c] →
      a.isSubtypeOf a = false ∧
        (a.isSubtypeOf b = true → b.isSubtypeOf a = false) ∧
        (a.isSubtypeOf b = true → b.isSubtypeOf c = true → a.isSubtypeOf c = true) ∧
        (a.isSubtypeOf b = true → a.equals b = false)) ∧
    (∀ a a' b b' : EdmShape, Consistent [a, a', b, b'] → a.equals a' = true → b.equals b' = true →
      a.isSubtypeOf b = a'.isSubtypeOf b') ∧
    (∀ (x y : Entity) (hs ks : List Handle), hs.length = ks.length →
      (nested hs (.entity x)).isSubtypeOf (nested ks (.entity y)) = x.derivesFrom y ∧
        (nested hs (.reference x)).isSubtypeOf (nested ks (.reference y)) = x.derivesFrom y) ∧
    ∀ a b : EdmShape, a.isSubtypeOf b = true ↔
      ∃ (x y : Entity) (hs ks : List Handle), x.derivesFrom y = true ∧ hs.length = ks.length ∧
        ((a = nested hs (.entity x) ∧ b = nested ks (.entity y)) ∨
          (a = nested hs (.reference x) ∧ b = nested ks (.reference y))) := by
  refine ⟨?_, ?_, ?_, ?_⟩
  · intro a b c consistent
    have ha : a.entities ⊆ [a, b, c].flatMap Shape.entities := entities_subset_of_mem (by simp)
    have hb : b.entities ⊆ [a, b, c].flatMap Shape.entities := entities_subset_of_mem (by simp)
    simp only [isSubtypeOf_eq_false_iff, isSubtypeOf_iff]
    refine ⟨Derives.irrefl consistent ha, ?_, ?_, ?_⟩
    · intro below above
      exact Derives.irrefl consistent ha (below.trans consistent ha hb above)
    · exact Derives.trans consistent ha hb
    · exact Derives.not_equals consistent ha
  · intro a a' b b' consistent one one'
    have ha : a.entities ⊆ [a, a', b, b'].flatMap Shape.entities := entities_subset_of_mem (by simp)
    have ha' : a'.entities ⊆ [a, a', b, b'].flatMap Shape.entities := entities_subset_of_mem (by simp)
    rw [Bool.eq_iff_iff, isSubtypeOf_iff, isSubtypeOf_iff]
    constructor
    · intro h
      exact (h.of_equals_left consistent ha ha' (equals_symm one)).of_equals_right one'
    · intro h
      exact (h.of_equals_left consistent ha' ha one).of_equals_right (equals_symm one')
  · intro x y hs ks depth
    exact ⟨isSubtypeOf_nested depth (.entity x) (.entity y),
      isSubtypeOf_nested depth (.reference x) (.reference y)⟩
  · intro a b
    exact isSubtypeOf_iff.trans derives_iff_nested

/-- Vehicles, cars that are vehicles, taxis that are cars, and taxis declared once more with a property of their
    own. -/
def vehicle : Entity := .root (.declare TypeUse.kept ⟨"Road", "Vehicle"⟩ [])
def car : Entity := .derive (.declare TypeUse.kept ⟨"Road", "Car"⟩ []) vehicle
def taxi : Entity := .derive (.declare TypeUse.kept ⟨"Road", "Taxi"⟩ []) car
def cab : Entity :=
  .derive (.declare TypeUse.kept ⟨"Road", "Taxi"⟩ [⟨⟨"Fare", .root 0, .primitive .decimal⟩, false⟩]) car

/-- Collections of references to an entity type. -/
def fleet (e : Entity) : EdmShape := nested [.root 1] (.reference e)

theorem isSubtypeOf_fleets :
    Consistent [fleet taxi, fleet car, fleet vehicle] ∧ Consistent [fleet taxi, fleet cab, fleet car, fleet car] ∧
      (fleet taxi).isSubtypeOf (fleet vehicle) = true ∧ (fleet car).isSubtypeOf (fleet taxi) = false ∧
      (fleet taxi).equals (fleet car) = false ∧ (fleet taxi).equals (fleet cab) = true ∧
      (fleet cab).isSubtypeOf (fleet car) = true ∧
      (nested [.root 2, .root 3] (.entity cab)).isSubtypeOf (nested [.root 4, .root 5] (.entity vehicle)) = true := by
  obtain ⟨order, congruence, places, _⟩ := isSubtypeOf_strict_order
  have consistent : Consistent [fleet taxi, fleet car, fleet vehicle] := by decide
  have anew : Consistent [fleet taxi, fleet cab, fleet car, fleet car] := by decide
  have taxis : (fleet taxi).isSubtypeOf (fleet car) = true := by decide
  have cars : (fleet car).isSubtypeOf (fleet vehicle) = true := by decide
  have one : (fleet taxi).equals (fleet cab) = true := by decide
  obtain ⟨_, asymmetric, transitive, strict⟩ := order _ _ _ consistent
  obtain ⟨deeper, _⟩ := places cab vehicle [.root 2, .root 3] [.root 4, .root 5] rfl
  refine ⟨consistent, anew, transitive taxis cars, asymmetric taxis, strict taxis, one, ?_, ?_⟩
  · rw [← congruence _ _ _ _ anew one (equals_refl _)]
    exact taxis
  · rw [deeper]
    decide

end Shape
end EntityQuery
