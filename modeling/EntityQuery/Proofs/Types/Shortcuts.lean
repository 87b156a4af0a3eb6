import EntityQuery.Model.Mention
import EntityQuery.Model.Subtyping
import EntityQuery.Proofs.Types.Equality
/-!
# `Proofs.Types.Shortcuts` — one thing is of one type with itself

What types name is shared: one entity type, one complex type, even one row can stand in many places. A comparison
that meets one and the same object on both sides may answer at once, without looking at names or going through
columns. Being of one type is reflexive, so such shortcuts never change an answer, whatever is shared with what.

Which objects are one cannot be read off the types; it is up to those who made them. So the comparison with
shortcuts asks an **identity**, and may get another answer at every place it comes to.

## Contents
* `Identity` — what is known of objects that are one.
* `Shape.equalsVia` — the comparison that takes shortcuts.
* `Shape.equalsVia_eq` — the shortcuts change no answer.
* `Shape.equals_laws_and_shortcuts` — an equivalence, by names and parts alone, that writing and promotion respect.
-/

namespace EntityQuery

/-! ## Identities -/

/-- **An identity of objects.** At each place of a comparison it tells whether the things on both sides are one
    object. Then they are the same in every respect; of two objects nothing is known, they may still be alike. -/
structure Identity where
  same : {α : Type} → List Nat → α → α → Bool
  eq_of_same : ∀ {α : Type} {place : List Nat} {a b : α}, same place a b = true → a = b

namespace Identity

/-- The identity under which all is one that is alike, so that every shortcut is taken. -/
noncomputable def ofEq : Identity where
  same _ a b := @decide (a = b) (Classical.propDecidable _)
  eq_of_same h := @of_decide_eq_true _ (Classical.propDecidable _) h

/-- A shortcut before a test that holds of each thing and itself changes nothing. -/
theorem same_or_eq (identity : Identity) {α : Type} {place : List Nat} {a b : α} {test : Bool}
    (self : a = b → test = true) : (identity.same place a b || test) = test := by
  by_cases one : identity.same place a b = true
  · rw [one, self (identity.eq_of_same one)]
    rfl
  · rw [Bool.eq_false_iff.mpr one, Bool.false_or]

end Identity

/-! ## Comparing with shortcuts -/

mutual

/-- Whether two uses are of one type, told with shortcuts. The place is how the comparison came here, the last
    turn first. -/
def TypeUse.equalsVia (identity : Identity) : List Nat → TypeUse → TypeUse → Bool
  | place, ⟨_, s⟩, ⟨_, t⟩ => s.equalsVia identity place t
termination_by structural _ s => s

/-- Whether two shapes are of one type, told with shortcuts: what has a name and what has columns is first asked
    for its identity. -/
def Shape.equalsVia (identity : Identity) : List Nat → Shape TypeUse → Shape TypeUse → Bool
  | _, .primitive a, .primitive b => a == b
  | place, .enumeration a, .enumeration b => identity.same place a b || a.name.same b.name
  | place, .entity a, .entity b => identity.same place a b || a.name.same b.name
  | place, .complex a, .complex b => identity.same place a b || a.name.same b.name
  | place, .row a, .row b => identity.same place a b || columnsEqualVia identity place a b
  | place, .relationship a, .relationship b => identity.same place a b || a.name.same b.name
  | place, .collection a, .collection b => a.equalsVia identity (0 :: place) b
  | place, .reference a, .reference b => identity.same place a b || a.name.same b.name
  | _, _, _ => false
termination_by structural _ s => s

/-- Whether two rows have the same columns, told with shortcuts in their types: `0` turns into a column, `1` goes
    on to the next. -/
def columnsEqualVia (identity : Identity) : List Nat → List (Property TypeUse) → List (Property TypeUse) → Bool
  | _, [], [] => true
  | place, ⟨m, a⟩ :: as, ⟨n, b⟩ :: bs =>
      m == n && a.equalsVia identity (0 :: place) b && columnsEqualVia identity (1 :: place) as bs
  | _, _, _ => false
termination_by structural _ s => s

end

variable {identity : Identity}

theorem TypeUse.equalsVia_eq_shape (place : List Nat) (s t : TypeUse) :
    s.equalsVia identity place t = s.shape.equalsVia identity place t.shape := by
  obtain ⟨_, s⟩ := s
  obtain ⟨_, t⟩ := t
  rw [TypeUse.equalsVia]

theorem columnsEqualVia_cons (place : List Nat) (p q : Property TypeUse) (ps qs : List (Property TypeUse)) :
    columnsEqualVia identity place (p :: ps) (q :: qs) =
      (p.name == q.name && p.type.equalsVia identity (0 :: place) q.type &&
        columnsEqualVia identity (1 :: place) ps qs) := by
  rw [columnsEqualVia]

/-- Rows are compared alike with and without shortcuts, if the types of their columns are. -/
theorem columnsEqualVia_eq {as : List (Property TypeUse)}
    (each : ∀ p ∈ as, ∀ place t, p.type.shape.equalsVia identity place t = p.type.shape.equals t)
    (place : List Nat) (bs : List (Property TypeUse)) :
    columnsEqualVia identity place as bs = columnsEqual as bs := by
  induction as generalizing place bs with
  | nil => cases bs <;> rfl
  | cons p ps ih =>
    cases bs with
    | nil => rfl
    | cons q qs =>
      have rest := ih (fun p' hp => each p' (List.mem_cons_of_mem _ hp)) (1 :: place) qs
      rw [columnsEqualVia_cons, columnsEqual_cons, TypeUse.equalsVia_eq_shape, TypeUse.equals_eq,
        each p List.mem_cons_self, rest]

namespace Shape

/-- **Shortcuts change no answer,** whatever objects are one and wherever the comparison meets them. -/
theorem equalsVia_eq (place : List Nat) (s t : EdmShape) : s.equalsVia identity place t = s.equals t := by
  induction s using inductionOnParts generalizing place t with
  | step s ih =>
    -- only the diagonal cases ask for an identity: five for that of a name, and a row for its own
    cases s <;> cases t <;> try rfl
    case enumeration.enumeration a b | entity.entity a b | complex.complex a b | relationship.relationship a b |
        reference.reference a b => exact identity.same_or_eq fun one => one ▸ a.name.same_self
    case row.row as bs =>
      have columns : columnsEqualVia identity place as bs = columnsEqual as bs := by
        refine columnsEqualVia_eq ?_ place bs
        intro p hp place t
        exact ih p.type (List.mem_map_of_mem hp) place t
      show (identity.same place as bs || columnsEqualVia identity place as bs) = columnsEqual as bs
      rw [columns]
      exact identity.same_or_eq fun one => one ▸ equals_refl (.row as)
    case collection.collection a b =>
      show a.equalsVia identity (0 :: place) b = a.equals b
      rw [TypeUse.equalsVia_eq_shape, TypeUse.equals_eq]
      exact ih a (List.mem_singleton_self a) (0 :: place) b.shape

/-- **Being of one type.** It is an equivalence. It goes by full names, by the names and types of columns, and by
    elements; asking first whether two things are one object gives the same answer, whatever is shared. Types
    that are one are written alike, and a value of either may stand for one of the other, whatever the entity
    types in them derive from. -/
theorem equals_laws_and_shortcuts (a b c : EdmShape) :
    (a.equals a = true ∧ (a.equals b = true → b.equals a = true) ∧
      (a.equals b = true → b.equals c = true → a.equals c = true)) ∧
    (a.equals b = true ↔ Same a b) ∧
    (∀ (identity : Identity) (place : List Nat), a.equalsVia identity place b = a.equals b) ∧
    (a.equals b = true → a.text = b.text ∧ a.promotesTo b = true ∧ b.promotesTo a = true) := by
  refine ⟨⟨equals_refl a, equals_symm, equals_trans⟩, equals_iff, ?_, ?_⟩
  · intro identity place
    exact equalsVia_eq place a b
  · intro one
    exact ⟨text_eq_of_equals one, promotesTo_of_equals one, promotesTo_of_equals (equals_symm one)⟩

/-- A clerk, and another entity type of the same full name, which derives from the first. -/
def clerk : Entity := .root (.declare TypeUse.kept ⟨"Town.Hall", "Clerk"⟩ [])
def namesake : Entity := .derive (.declare TypeUse.kept ⟨"Town", "Hall.Clerk"⟩ []) clerk

/-- A row of a head clerk and all clerks, made at a site. -/
def staff (clerk : Entity) (site : Nat) : EdmShape :=
  .row [⟨"head", .root site, .reference clerk⟩,
    ⟨"all", (Handle.root site).child 0, .collection ⟨(Handle.root site).child 1, .entity clerk⟩⟩]

/-- No two rows are one object here, and the entity types in the second differ from those in the others. -/
theorem equals_laws_staff :
    (staff clerk 0).equals (staff namesake 1) = true ∧ (staff namesake 1).equals (staff clerk 2) = true ∧
      (staff clerk 0).equals (staff clerk 2) = true ∧
      (staff clerk 0).equalsVia .ofEq [] (staff namesake 1) = true ∧
      (staff clerk 0).text = "Row(head Ref(Town.Hall.Clerk), all Collection(Town.Hall.Clerk))" ∧
      (staff clerk 0).text = (staff namesake 1).text ∧
      (staff clerk 0).promotesTo (staff namesake 1) = true ∧
      (staff namesake 1).promotesTo (staff clerk 0) = true := by
  have first : (staff clerk 0).equals (staff namesake 1) = true := by decide
  have second : (staff namesake 1).equals (staff clerk 2) = true := by decide
  obtain ⟨⟨_, _, transitive⟩, _, shortcuts, one⟩ :=
    equals_laws_and_shortcuts (staff clerk 0) (staff namesake 1) (staff clerk 2)
  refine ⟨first, second, transitive first second, ?_, by decide, one first⟩
  rw [shortcuts]
  exact first

end Shape
end EntityQuery
