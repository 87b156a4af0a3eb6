import EntityQuery.Model.Subtyping
import EntityQuery.Proofs.Types.Equality
/-!
# `Proofs.Types.Promotion` — promotion is a partial order

Entities are told apart by their full names, but whether one derives from another is read off the names on
its base chain. Two entity types of one name could bring two different chains, and then promotion would
depend on which of them is asked. Metadata is **consistent** when that does not happen. Over consistent
metadata no base chain meets a name twice, and promotion is a partial order on types.

## Contents
* `EntityType.baseNames`, `lineage`, `Shape.entities` — the entity types that occur in a type, with those on
  their base chains.
* `ConsistentEntities`, `Consistent` — one name, one base chain.
* `EntityType.IsA` — being an entity type or deriving from it; `isA_trans`, `fullName_eq_of_isA`.
* `Shape.Promotes`, `promotesTo_iff` — what promotion tests.
* `promotesTo_refl`, `promotesTo_trans`, `promotesTo_and_promotesTo_iff` — the partial order.
-/

namespace EntityQuery

/-! ## The entity types that occur in a type -/

namespace EntityType

variable {τ : Type}

/-- The full names on the base chain, from the nearest base to the root. -/
def baseNames (e : EntityType τ) : List String := e.bases.map (·.name.text)

/-- The entity types that a chain of declarations stands for, from its first to the root. -/
def ofChain : List (EntityDecl τ) → List (EntityType τ)
  | [] => []
  | d :: ds => ⟨d, ds⟩ :: ofChain ds

/-- An entity type and the entity types on its base chain. -/
def lineage (e : EntityType τ) : List (EntityType τ) := ofChain e.chain

theorem self_mem_lineage (e : EntityType τ) : e ∈ e.lineage := List.mem_cons_self

/-- Deriving from an entity type is having its name on the base chain. -/
theorem derivesFrom_iff {a b : EntityType τ} : a.derivesFrom b = true ↔ b.fullName ∈ a.baseNames := by
  simp only [derivesFrom, baseNames, List.any_eq_true, List.mem_map, QualifiedName.same_iff]
  exact Iff.rfl

/-- A name on a base chain belongs to an entity type of the chain, whose own chain is a shorter part. -/
theorem exists_mem_ofChain {ds : List (EntityDecl τ)} {n : String} (h : n ∈ ds.map (·.name.text)) :
    ∃ f ∈ ofChain ds, f.fullName = n ∧ f.baseNames.length < ds.length ∧
      f.baseNames ⊆ ds.map (·.name.text) := by
  induction ds with
  | nil => exact absurd h List.not_mem_nil
  | cons d ds ih =>
    rw [List.map_cons, List.mem_cons] at h
    rcases h with rfl | h
    · refine ⟨⟨d, ds⟩, List.mem_cons_self, rfl, ?_, ?_⟩
      · simp [baseNames]
      · exact fun x hx => List.mem_cons_of_mem _ hx
    · obtain ⟨f, hf, name, shorter, part⟩ := ih h
      refine ⟨f, List.mem_cons_of_mem _ hf, name, ?_, ?_⟩
      · exact Nat.lt_succ_of_lt shorter
      · exact fun x hx => List.mem_cons_of_mem _ (part hx)

/-- A base is an entity type of the lineage, further up. -/
theorem exists_mem_lineage_of_mem_baseNames {a : EntityType τ} {n : String} (h : n ∈ a.baseNames) :
    ∃ f ∈ a.lineage, f.fullName = n ∧ f.baseNames.length < a.baseNames.length ∧
      f.baseNames ⊆ a.baseNames := by
  obtain ⟨f, hf, name, shorter, part⟩ := exists_mem_ofChain h
  refine ⟨f, List.mem_cons_of_mem _ hf, name, ?_, part⟩
  simpa [baseNames] using shorter

end EntityType

mutual

/-- The entity types that occur in a type, with those on their base chains. -/
def TypeUse.entities : TypeUse → List Entity
  | ⟨_, s⟩ => s.entities
termination_by structural t => t

/-- The entity types that occur in a shape: as the entity itself, as what a reference points at, or in a
    part. -/
def Shape.entities : Shape TypeUse → List Entity
  | .entity e => e.lineage
  | .reference e => e.lineage
  | .row columns => columnsEntities columns
  | .collection element => element.entities
  | .primitive _ | .enumeration _ | .complex _ | .relationship _ => []
termination_by structural s => s

/-- The entity types that occur in the columns of a row. -/
def columnsEntities : List (Property TypeUse) → List Entity
  | [] => []
  | ⟨_, type⟩ :: columns => type.entities ++ columnsEntities columns
termination_by structural columns => columns

end

theorem TypeUse.entities_eq (t : TypeUse) : t.entities = t.shape.entities := by
  obtain ⟨_, s⟩ := t
  rw [TypeUse.entities]

theorem columnsEntities_eq_flatMap (columns : List (Property TypeUse)) :
    columnsEntities columns = columns.flatMap (·.type.shape.entities) := by
  induction columns with
  | nil => rfl
  | cons p ps ih =>
    obtain ⟨name, type⟩ := p
    rw [columnsEntities, ih, TypeUse.entities_eq, List.flatMap_cons]

/-- What occurs in a part occurs in the whole. -/
theorem Shape.entities_subset_of_mem_parts {s : EdmShape} {t : TypeUse} (h : t ∈ s.parts) :
    t.shape.entities ⊆ s.entities := by
  intro e he
  cases s with
  | row columns =>
    obtain ⟨p, hp, rfl⟩ := List.mem_map.mp h
    rw [Shape.entities, columnsEntities_eq_flatMap]
    exact List.mem_flatMap.mpr ⟨p, hp, he⟩
  | collection element =>
    obtain rfl := List.mem_singleton.mp h
    rw [Shape.entities, TypeUse.entities_eq]
    exact he
  | _ => exact absurd h List.not_mem_nil

/-! ## Consistent metadata -/

/-- **One name, one base chain.** Entity types of one full name have the same full names on their base
    chains. -/
def ConsistentEntities (entities : List Entity) : Prop :=
  ∀ a ∈ entities, ∀ b ∈ entities, a.fullName = b.fullName → a.baseNames = b.baseNames

/-- Types over consistent metadata: the entity types that occur in them, with those on their base chains,
    are consistent. -/
def Consistent (types : List EdmShape) : Prop := ConsistentEntities (types.flatMap Shape.entities)

instance (entities : List Entity) : Decidable (ConsistentEntities entities) :=
  inferInstanceAs
    (Decidable (∀ a ∈ entities, ∀ b ∈ entities, a.fullName = b.fullName → a.baseNames = b.baseNames))

instance (types : List EdmShape) : Decidable (Consistent types) :=
  inferInstanceAs (Decidable (ConsistentEntities (types.flatMap Shape.entities)))

namespace EntityType

/-- An entity of the first type is one of the second: the types are one, or the first derives from the
    second. -/
def IsA (a b : Entity) : Prop := a.fullName = b.fullName ∨ a.derivesFrom b = true

variable {entities : List Entity} {a b c : Entity}

/-- **Derivation composes** over consistent metadata. -/
theorem derivesFrom_trans (consistent : ConsistentEntities entities) (ha : a.lineage ⊆ entities)
    (hb : b ∈ entities) (h : a.derivesFrom b = true) (k : b.derivesFrom c = true) :
    a.derivesFrom c = true := by
  rw [derivesFrom_iff] at *
  -- the base of `a` that has the name of `b` has also the bases of `b`
  obtain ⟨f, hf, name, _, part⟩ := exists_mem_lineage_of_mem_baseNames h
  have bases : f.baseNames = b.baseNames := consistent f (ha hf) b hb name
  exact part (bases ▸ k)

/-- **Nothing derives from its own name** over consistent metadata. -/
theorem not_derivesFrom_of_fullName_eq (consistent : ConsistentEntities entities)
    (ha : a.lineage ⊆ entities) (e : a.fullName = b.fullName) : a.derivesFrom b = false := by
  rw [Bool.eq_false_iff]
  intro h
  rw [derivesFrom_iff, ← e] at h
  -- a base of the name of `a` would have the chain of `a`, of which it is a shorter part
  obtain ⟨f, hf, name, shorter, _⟩ := exists_mem_lineage_of_mem_baseNames h
  have bases : f.baseNames = a.baseNames := consistent f (ha hf) a (ha a.self_mem_lineage) name
  rw [bases] at shorter
  exact Nat.lt_irrefl _ shorter

/-- **An entity type's name decides what it derives from** over consistent metadata. -/
theorem derivesFrom_of_fullName_eq (consistent : ConsistentEntities entities) (ha : a ∈ entities)
    (hb : b ∈ entities) (e : a.fullName = b.fullName) (k : b.derivesFrom c = true) :
    a.derivesFrom c = true := by
  rw [derivesFrom_iff] at *
  rw [consistent a ha b hb e]
  exact k

theorem isA_trans (consistent : ConsistentEntities entities) (ha : a.lineage ⊆ entities)
    (hb : b.lineage ⊆ entities) (h : a.IsA b) (k : b.IsA c) : a.IsA c := by
  have hb' : b ∈ entities := hb b.self_mem_lineage
  rcases h with e | h
  · rcases k with e' | k
    · exact .inl (e.trans e')
    · exact .inr (derivesFrom_of_fullName_eq consistent (ha a.self_mem_lineage) hb' e k)
  · rcases k with e' | k
    · rw [derivesFrom_iff, e', ← derivesFrom_iff] at h
      exact .inr h
    · exact .inr (derivesFrom_trans consistent ha hb' h k)

/-- Entity types that are each the other have one name. -/
theorem fullName_eq_of_isA (consistent : ConsistentEntities entities) (ha : a.lineage ⊆ entities)
    (hb : b.lineage ⊆ entities) (h : a.IsA b) (k : b.IsA a) : a.fullName = b.fullName := by
  rcases h with e | h
  · exact e
  · rcases k with e | k
    · exact e.symm
    · -- deriving from each other is deriving from oneself
      have self : a.derivesFrom a = true :=
        derivesFrom_trans consistent ha (hb b.self_mem_lineage) h k
      rw [not_derivesFrom_of_fullName_eq consistent ha rfl] at self
      exact absurd self Bool.false_ne_true

end EntityType

/-! ## What promotion tests -/

/-- Two columns of one name, the first of a type that promotes to the second's. -/
def PromotableColumn (p q : Property TypeUse) : Prop :=
  p.name = q.name ∧ p.type.shape.promotesTo q.type.shape = true

/-- **Promotion.** Primitives go by the table, entities and references by their chains, collections and
    rows part by part; of all other kinds a type stands only for itself. -/
inductive Shape.Promotes : EdmShape → EdmShape → Prop
  | primitive {a b : Primitive} : a.promotesTo b = true → Promotes (.primitive a) (.primitive b)
  | enumeration {a b : EnumType} : a.fullName = b.fullName → Promotes (.enumeration a) (.enumeration b)
  | entity {a b : Entity} : a.IsA b → Promotes (.entity a) (.entity b)
  | complex {a b : ComplexType TypeUse} : a.name.text = b.name.text → Promotes (.complex a) (.complex b)
  | row {as bs : List (Property TypeUse)} :
      List.Forall₂ PromotableColumn as bs → Promotes (.row as) (.row bs)
  | relationship {a b : Relationship} :
      a.fullName = b.fullName → Promotes (.relationship a) (.relationship b)
  | collection {a b : TypeUse} :
      a.shape.promotesTo b.shape = true → Promotes (.collection a) (.collection b)
  | reference {a b : Entity} : a.IsA b → Promotes (.reference a) (.reference b)

/-- Rows promote column by column. -/
theorem columnsPromote_iff {as bs : List (Property TypeUse)} :
    columnsPromote as bs = true ↔ List.Forall₂ PromotableColumn as bs := by
  induction as generalizing bs with
  | nil => cases bs <;> simp [columnsPromote]
  | cons p ps ih =>
    cases bs with
    | nil => simp [columnsPromote]
    | cons q qs =>
      rw [columnsPromote_cons, Bool.and_eq_true, Bool.and_eq_true, ih, List.forall₂_cons,
        TypeUse.promotesTo_eq, beq_iff_eq]
      exact Iff.rfl

/-- What is of one entity type or derives from it, as the test has it. -/
theorem EntityType.same_or_derivesFrom_iff {a b : Entity} :
    (a.name.same b.name || a.derivesFrom b) = true ↔ a.IsA b := by
  rw [Bool.or_eq_true, QualifiedName.same_iff]
  exact Iff.rfl

namespace Shape

/-- **The test decides the rules.** -/
theorem promotesTo_iff {s t : EdmShape} : s.promotesTo t = true ↔ Promotes s t := by
  constructor
  · intro h
    rw [promotesTo_eq] at h
    -- as for equality, only the eight diagonal cases pass
    cases s <;> cases t <;> simp only [Shape.equals, Shape.isSubtypeOf, Bool.or_false, Bool.false_eq_true] at h
    case primitive.primitive => exact .primitive h
    case enumeration.enumeration => exact .enumeration (QualifiedName.same_iff.mp h)
    case entity.entity => exact .entity (EntityType.same_or_derivesFrom_iff.mp h)
    case complex.complex => exact .complex (QualifiedName.same_iff.mp h)
    case row.row => exact .row (columnsPromote_iff.mp h)
    case relationship.relationship => exact .relationship (QualifiedName.same_iff.mp h)
    case collection.collection =>
      rw [TypeUse.promotesTo_eq] at h
      exact .collection h
    case reference.reference => exact .reference (EntityType.same_or_derivesFrom_iff.mp h)
  · intro h
    cases h with
    | primitive h =>
      rw [promotesTo_eq]
      exact h
    | enumeration h => exact promotesTo_of_equals (equals_iff.mpr (.enumeration h))
    | entity h =>
      rw [promotesTo_eq]
      exact EntityType.same_or_derivesFrom_iff.mpr h
    | complex h => exact promotesTo_of_equals (equals_iff.mpr (.complex h))
    | row h =>
      rw [promotesTo_eq]
      exact columnsPromote_iff.mpr h
    | relationship h => exact promotesTo_of_equals (equals_iff.mpr (.relationship h))
    | collection h =>
      rw [promotesTo_eq]
      exact (TypeUse.promotesTo_eq _ _).trans h
    | reference h =>
      rw [promotesTo_eq]
      exact EntityType.same_or_derivesFrom_iff.mpr h

/-! ## The partial order -/

/-- A value may stand where its own type is expected. -/
@[simp] theorem promotesTo_refl (s : EdmShape) : s.promotesTo s = true := promotesTo_of_equals (equals_refl s)

/-- What occurs in a column occurs in the row. -/
theorem entities_subset_of_mem_row {columns : List (Property TypeUse)} {p : Property TypeUse}
    (hp : p ∈ columns) : p.type.shape.entities ⊆ Shape.entities (.row columns) :=
  entities_subset_of_mem_parts (s := .row columns) (List.mem_map_of_mem hp)

/-- Promotion composes, whatever consistent entity types the shapes are made of. -/
theorem promotesTo_trans_of_subset {entities : List Entity} (consistent : ConsistentEntities entities)
    {s t u : EdmShape} (hs : s.entities ⊆ entities) (ht : t.entities ⊆ entities)
    (hu : u.entities ⊆ entities) (h : s.promotesTo t = true) (k : t.promotesTo u = true) :
    s.promotesTo u = true := by
  induction s using inductionOnParts generalizing t u with
  | step s ih =>
    apply promotesTo_iff.mpr
    -- the rule for `s` and `t` fixes the kind of `t`, and so the rule for `t` and `u`
    cases promotesTo_iff.mp h with
    | primitive st =>
      cases promotesTo_iff.mp k with | primitive tu => exact .primitive (Primitive.promotesTo_trans st tu)
    | enumeration st =>
      cases promotesTo_iff.mp k with | enumeration tu => exact .enumeration (st.trans tu)
    | entity st =>
      cases promotesTo_iff.mp k with
      | entity tu => exact .entity (EntityType.isA_trans consistent hs ht st tu)
    | complex st => cases promotesTo_iff.mp k with | complex tu => exact .complex (st.trans tu)
    | row st =>
      cases promotesTo_iff.mp k with
      | row tu =>
        refine .row (forall₂_trans_of_mem ?_ st tu)
        intro p hp q hq r hr hpq hqr
        refine ⟨hpq.1.trans hqr.1, ih p.type (List.mem_map_of_mem hp) ?_ ?_ ?_ hpq.2 hqr.2⟩
        · exact List.Subset.trans (entities_subset_of_mem_row hp) hs
        · exact List.Subset.trans (entities_subset_of_mem_row hq) ht
        · exact List.Subset.trans (entities_subset_of_mem_row hr) hu
    | relationship st =>
      cases promotesTo_iff.mp k with | relationship tu => exact .relationship (st.trans tu)
    | collection st =>
      cases promotesTo_iff.mp k with
      | collection tu =>
        rw [Shape.entities, TypeUse.entities_eq] at hs ht hu
        exact .collection (ih _ (List.mem_singleton_self _) hs ht hu st tu)
    | reference st =>
      cases promotesTo_iff.mp k with
      | reference tu => exact .reference (EntityType.isA_trans consistent hs ht st tu)

/-- Shapes that promote to each other are of one type, whatever consistent entity types they are made of. -/
theorem equals_of_promotesTo_of_subset {entities : List Entity} (consistent : ConsistentEntities entities)
    {s t : EdmShape} (hs : s.entities ⊆ entities) (ht : t.entities ⊆ entities)
    (h : s.promotesTo t = true) (k : t.promotesTo s = true) : s.equals t = true := by
  induction s using inductionOnParts generalizing t with
  | step s ih =>
    apply equals_iff.mpr
    cases promotesTo_iff.mp h with
    | @primitive a b st =>
      cases promotesTo_iff.mp k with
      | primitive ts => exact Primitive.eq_of_promotesTo st ts ▸ .primitive a
    | enumeration st => exact .enumeration st
    | entity st =>
      cases promotesTo_iff.mp k with
      | entity ts => exact .entity (EntityType.fullName_eq_of_isA consistent hs ht st ts)
    | complex st => exact .complex st
    | row st =>
      cases promotesTo_iff.mp k with
      | row ts =>
        refine .row (forall₂_of_both ?_ st ts)
        intro p hp q hq hpq hqp
        refine ⟨hpq.1, ih p.type (List.mem_map_of_mem hp) ?_ ?_ hpq.2 hqp.2⟩
        · exact List.Subset.trans (entities_subset_of_mem_row hp) hs
        · exact List.Subset.trans (entities_subset_of_mem_row hq) ht
    | relationship st => exact .relationship st
    | collection st =>
      cases promotesTo_iff.mp k with
      | collection ts =>
        rw [Shape.entities, TypeUse.entities_eq] at hs ht
        exact .collection (ih _ (List.mem_singleton_self _) hs ht st ts)
    | reference st =>
      cases promotesTo_iff.mp k with
      | reference ts => exact .reference (EntityType.fullName_eq_of_isA consistent hs ht st ts)

/-- The entity types of one of several shapes are among those of all. -/
theorem entities_subset_of_mem {types : List EdmShape} {s : EdmShape} (h : s ∈ types) :
    s.entities ⊆ types.flatMap Shape.entities :=
  fun _ he => List.mem_flatMap.mpr ⟨s, h, he⟩

/-- **Promotion composes** over consistent metadata. -/
theorem promotesTo_trans {types : List EdmShape} (consistent : Consistent types) {s t u : EdmShape}
    (hs : s ∈ types) (ht : t ∈ types) (hu : u ∈ types) (h : s.promotesTo t = true)
    (k : t.promotesTo u = true) : s.promotesTo u = true :=
  promotesTo_trans_of_subset consistent (entities_subset_of_mem hs) (entities_subset_of_mem ht)
    (entities_subset_of_mem hu) h k

/-- **Promotion both ways is being of one type** over consistent metadata. -/
theorem promotesTo_and_promotesTo_iff {types : List EdmShape} (consistent : Consistent types)
    {s t : EdmShape} (hs : s ∈ types) (ht : t ∈ types) :
    (s.promotesTo t = true ∧ t.promotesTo s = true) ↔ s.equals t = true := by
  constructor
  · intro ⟨h, k⟩
    exact equals_of_promotesTo_of_subset consistent (entities_subset_of_mem hs)
      (entities_subset_of_mem ht) h k
  · intro h
    exact ⟨promotesTo_of_equals h, promotesTo_of_equals (equals_symm h)⟩

end Shape
end EntityQuery
