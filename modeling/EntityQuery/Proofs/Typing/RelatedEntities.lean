import EntityQuery.Proofs.Lifetime.Declaring
import EntityQuery.Proofs.Precedence
import EntityQuery.Proofs.Typing.Coherence
/-!
# `Proofs.Typing.RelatedEntities` — what is checked of related entities, and what is not

An entity may be related to others as it is made. A related entity is judged by five conditions, in order:
its ends are of one relationship, they are two ends of it, at most one entity stands at the target, the
operand is a reference, and the entity it points at belongs at the target. The conditions are about
identities: ends of equal names and relationships of equal names do not count as the same. Whatever a run
makes, the related entities inside it satisfy all five.

The entity that is made stands at the source end, but no condition is about it. It is not known when the
related entity is judged, and when it is, the related entities are taken as they are.

## Contents
* `Related.conditions`, `Related.judgedBy_make` — the conditions in order, and that they are followed.
* `Session.wellFormed_of_holds`, `Session.relationship_eq_of_holds` — related entities in a run.
* `Session.related_conditions_of_run` — both together.
* `Builder.newEntity_of_other_related` — an entity is made with any related entities whatever.
-/

namespace EntityQuery

/-! ## The conditions -/

namespace Condition

/-- Both ends are of the very same relationship. -/
def ofOneRelationship (alive : Handle → Bool) (source target : RelationshipEnd) : Condition where
  holds := source.relationship.id = target.relationship.id
  reported cause := cause = .targetEndFromDifferentRelationship .targetEnd (source.declaringName alive)
    (target.declaringName alive)

/-- The ends are two: not the same place in the same relationship. -/
def twoEnds (source target : RelationshipEnd) : Condition where
  holds := ¬ (source.relationship.id = target.relationship.id ∧ source.index.val = target.index.val)
  reported cause := cause = .targetEndSameAsSourceEnd .targetEnd target.name

/-- At most one entity stands at the target. -/
def targetAtMostOne (target : RelationshipEnd) : Condition where
  holds := target.multiplicity ≠ .many
  reported cause := cause = .targetEndMustBeAtMostOne .targetEnd target.name target.multiplicity.text

/-- The operand is a reference. -/
def isReference (reference : Expr) : Condition where
  holds := ∃ found, reference.type.shape = .reference found
  reported cause := cause = .targetEntityNotRef .targetEntityReference reference.type.text

/-- The operand points at an entity of the target's type, or of one that derives from it. -/
def belongsAtTarget (target : RelationshipEnd) (reference : Expr) : Condition where
  holds := ∃ found, reference.type.shape = .reference found ∧ found.IsA target.entity
  reported cause := ∃ found, reference.type.shape = .reference found ∧
    cause = .targetEntityNotCompatible .targetEntityReference target.entity.fullName found.fullName

end Condition

namespace Related

/-- **The conditions on a related entity,** in the order in which they are judged. -/
def conditions (alive : Handle → Bool) (source target : RelationshipEnd) (reference : Expr) : List Condition :=
  [.ofOneRelationship alive source target, .twoEnds source target, .targetAtMostOne target,
    .isReference reference, .belongsAtTarget target reference]

variable {alive : Handle → Bool} {source target : RelationshipEnd} {reference : Expr}

/-- The operand is judged as a reference first, and then by what it points at. -/
theorem judgedBy_reference :
    JudgedBy [.isReference reference, .belongsAtTarget target reference]
      (match TypeRules.standard.referenceTarget? reference.type.shape with
        | none => .error (.targetEntityNotRef .targetEntityReference reference.type.text)
        | some found => do
          require (target.accepts .standard found)
            (.targetEntityNotCompatible .targetEntityReference target.entity.fullName found.fullName)
          return (⟨source, target, reference⟩ : Related))
      (· = ⟨source, target, reference⟩) := by
  cases points : TypeRules.standard.referenceTarget? reference.type.shape with
  | none =>
    have other : ¬ (Condition.isReference reference).holds := by
      rintro ⟨found, shape⟩
      rw [TypeRules.standard_referenceTarget?_eq_some_iff.mpr shape] at points
      exact absurd points (by simp)
    refine judgedBy_error fun c => ?_
    rw [firstFault_cons_iff, or_iff_left fun h => other h.1, and_iff_right other]
    exact Iff.rfl
  | some found =>
    have shape := TypeRules.standard_referenceTarget?_eq_some_iff.mp points
    have isReference : JudgedBy [.isReference reference] (.ok ()) fun _ => True :=
      judgedBy_ok (List.forall_mem_singleton.mpr ⟨found, shape⟩) trivial
    refine isReference.bind (f := fun _ => _) fun _ _ => ?_
    refine JudgedBy.map (judgedBy_require (k := .belongsAtTarget target reference) ?_ ?_) fun _ _ => rfl
    · rw [RelationshipEnd.accepts_standard_iff]
      simp [Condition.belongsAtTarget, shape]
    · intro c
      simp [Condition.belongsAtTarget, shape]

/-- **A related entity is judged by its conditions,** in their order: it is made exactly when all hold, and
    otherwise the first that does not is reported, whatever comes later. -/
theorem judgedBy_make :
    JudgedBy (conditions alive source target reference) (Related.make .standard alive source target reference)
      (· = ⟨source, target, reference⟩) := by
  have one : JudgedBy [.ofOneRelationship alive source target] (require (source.sameRelationship target)
      (.targetEndFromDifferentRelationship .targetEnd (source.declaringName alive) (target.declaringName alive)))
      fun _ => (Condition.ofOneRelationship alive source target).holds := by
    refine judgedBy_require ?_ fun _ => Iff.rfl
    simp [RelationshipEnd.sameRelationship, Condition.ofOneRelationship]
  have two : JudgedBy [.twoEnds source target] (require (!source.sameEnd target)
      (.targetEndSameAsSourceEnd .targetEnd target.name)) fun _ => (Condition.twoEnds source target).holds := by
    refine judgedBy_require ?_ fun _ => Iff.rfl
    rw [Bool.not_eq_true', ← Bool.not_eq_true]
    simp [RelationshipEnd.sameEnd, RelationshipEnd.sameRelationship, Condition.twoEnds]
  have few : JudgedBy [.targetAtMostOne target] (require target.isAtMostOne
      (.targetEndMustBeAtMostOne .targetEnd target.name target.multiplicity.text))
      fun _ => (Condition.targetAtMostOne target).holds := by
    exact judgedBy_require RelationshipEnd.isAtMostOne_iff fun _ => Iff.rfl
  exact one.bind fun _ _ => two.bind fun _ _ => few.bind fun _ _ => judgedBy_reference

/-- A well-formed related entity satisfies the conditions. -/
theorem conditions_of_wellFormed {r : Related} (wellFormed : RelatedOf.WellFormed r) :
    ∀ k ∈ conditions alive r.source r.target r.reference, k.holds := by
  have two : (Condition.twoEnds r.source r.target).holds := fun same => wellFormed.differentEnds same.2
  have few : (Condition.targetAtMostOne r.target).holds := RelationshipEnd.isAtMostOne_iff.mp wellFormed.atMostOne
  obtain ⟨found, shape, isA⟩ := wellFormed.reference
  intro k hk
  simp only [conditions, List.mem_cons, List.not_mem_nil, or_false] at hk
  rcases hk with rfl | rfl | rfl | rfl | rfl
  · exact wellFormed.sameRelationship
  · exact two
  · exact few
  · exact ⟨found, shape⟩
  · exact ⟨found, shape, isA⟩

end Related

/-! ## Runs -/

namespace Session

variable {rules : TypeRules} {steps : List Step} {n : Expr} {elements : List Expr} {related : List Related}

/-- The related entities of an instance that a run holds are well formed. -/
theorem wellFormed_of_holds (held : (empty.run .standard steps).Holds n)
    (made : n.node = .newInstance elements related) :
    ∀ r ∈ related, RelatedOf.WellFormed r := by
  obtain ⟨v, hv, hn⟩ := held
  have coherent : n.Coherent := (sound_coherent_run steps v hv).nodes n hn
  obtain ⟨type, node⟩ := n
  subst made
  exact coherent.2.2.2

/-- The ends of the related entities of an instance that a run holds are of one relationship, and not only
    of relationships with one identity. -/
theorem relationship_eq_of_holds (extract : rules.Extract) (held : (empty.run rules steps).Holds n)
    (made : n.node = .newInstance elements related) :
    ∀ r ∈ related, r.source.relationship = r.target.relationship := by
  intro r hr
  obtain ⟨v, ⟨name, hv⟩, hn⟩ := held
  have orderly : (empty.run rules steps).Orderly := by
    rw [← play_map_step]
    exact orderly_empty.play extract _
  have node : (empty.run rules steps).Owns (.expression n) := (owns_of_find? hv).trans (reaches_of_mem_nodes hn)
  have edge : (Value.expression n).Reaches (.related r) := by
    refine Value.expression_reaches_of_mem_owned ?_
    rw [made]
    exact List.mem_append_right _ (List.mem_map_of_mem hr)
  exact orderly.relationship_eq (node.trans edge)

/-- **Related entities are judged in order, once and for all.** Whatever the ends and the operand are and
    whichever relationships are alive, a related entity is made exactly when its five conditions hold, and
    otherwise the first that does not is reported. And in whatever a run holds, all five hold of every
    related entity in an instance, and its ends are ends of one relationship. -/
theorem related_conditions_of_run :
    (∀ alive source target reference, JudgedBy (Related.conditions alive source target reference)
      (Related.make .standard alive source target reference) (· = ⟨source, target, reference⟩)) ∧
    ∀ (steps : List Step) (n : Expr), (empty.run .standard steps).Holds n →
      ∀ elements related, n.node = .newInstance elements related →
        ∀ r ∈ related, r.source.relationship = r.target.relationship ∧
          ∀ alive, ∀ k ∈ Related.conditions alive r.source r.target r.reference, k.holds := by
  constructor
  · intro alive source target reference
    exact Related.judgedBy_make
  · intro steps n held elements related made r hr
    have extract : TypeRules.standard.Extract := TypeRules.extract_of_same rfl rfl
    have wellFormed := wellFormed_of_holds held made r hr
    refine ⟨relationship_eq_of_holds extract held made r hr, fun alive => ?_⟩
    exact Related.conditions_of_wellFormed wellFormed

/-- An order that is made with the customer who placed it. -/
def orderOfCustomer : List Step := [
  .make (some "Customer") (.model (.entity ⟨"Sales", "Customer"⟩ none [⟨⟨"Id", .primitive .int32⟩, true⟩])),
  .make (some "Order") (.model (.entity ⟨"Sales", "Order"⟩ none [⟨⟨"Id", .primitive .int32⟩, true⟩])),
  .make (some "Customer_Orders") (.model (.relationship ⟨"Sales", "Customer_Orders"⟩
    [⟨"Customer", "Customer", .zeroOrOne⟩, ⟨"Orders", "Order", .many⟩])),
  .make (some "orders") (.model (.relationshipEnd "Customer_Orders" "Orders")),
  .make (some "customer") (.model (.relationshipEnd "Customer_Orders" "Customer")),
  .make (some "who") (.build (.variableReference "who" (.reference "Customer"))),
  .make (some "buyer") (.build (.related "orders" "customer" "who")),
  .make (some "id") (.build (.constant (.literal (.int32 1)))),
  .make (some "made") (.build (.newEntity "Order" ["id"] ["buyer"]))]

theorem related_conditions_orderOfCustomer :
    ∃ n elements r, (empty.run .standard orderOfCustomer).find? "made" = some (.expression n) ∧
      n.node = .newInstance elements [r] ∧ r.source.relationship = r.target.relationship ∧
        ∀ alive, ∀ k ∈ Related.conditions alive r.source r.target r.reference, k.holds := by
  have found : ∃ n elements r, (empty.run .standard orderOfCustomer).find? "made" = some (.expression n) ∧
      n.node = .newInstance elements [r] := ⟨_, _, _, rfl, rfl⟩
  obtain ⟨n, elements, r, held, made⟩ := found
  have ⟨_, kept⟩ := related_conditions_of_run
  have holds : (empty.run .standard orderOfCustomer).Holds n := Has.holds ⟨"made", held⟩ List.mem_cons_self
  exact ⟨n, elements, r, held, made, kept orderOfCustomer n holds elements [r] made r List.mem_cons_self⟩

end Session

/-! ## The source end -/

/-- **Nothing is asked of the source end.** When an entity is made, it is made as well with any other related
    entities in place of those given, and it carries them as they are. So it belongs at the source of each
    exactly when it did before it was made: making it does not see to that. -/
theorem Builder.newEntity_of_other_related {alive : Handle → Bool} {here : Handle} {entity : Entity}
    {elements : List Expr} {related : List Related} {made : Expr}
    (accepted : Builder.newEntity ⟨.standard, alive, here⟩ entity elements related = .ok made) :
    (∀ others, Builder.newEntity ⟨.standard, alive, here⟩ entity elements others =
      .ok ⟨made.type, .newInstance elements others⟩) ∧
    ((∀ r ∈ made.node.related, entity.IsA r.source.entity) ↔ ∀ r ∈ related, entity.IsA r.source.entity) := by
  obtain ⟨fit, isEntity, nonempty, rfl⟩ := newEntity_eq_ok_iff.mp accepted
  refine ⟨fun others => ?_, Iff.rfl⟩
  exact newEntity_eq_ok_iff.mpr ⟨fit, isEntity, nonempty, rfl⟩

namespace Session

/-- Products beside customers and orders. -/
def orderAndProduct : List Step := orderOfCustomer ++ [
  .make (some "Product") (.model (.entity ⟨"Sales", "Product"⟩ none [⟨⟨"Id", .primitive .int32⟩, true⟩]))]

theorem newEntity_of_other_related_product :
    ∃ product elements r made, (empty.run .standard orderAndProduct).entity "Product" = .ok product ∧
      (empty.run .standard orderAndProduct).related "buyer" = .ok r ∧
      ((empty.run .standard orderAndProduct).builder .standard).newEntity product elements [r] = .ok made ∧
      (∀ others, ((empty.run .standard orderAndProduct).builder .standard).newEntity product elements others =
        .ok ⟨made.type, .newInstance elements others⟩) ∧
      ((∀ r ∈ made.node.related, product.IsA r.source.entity) ↔ ∀ x ∈ [r], product.IsA x.source.entity) := by
  have accepted : ∃ product elements r made, (empty.run .standard orderAndProduct).entity "Product" = .ok product ∧
      (empty.run .standard orderAndProduct).expressions ["id"] = .ok elements ∧
      (empty.run .standard orderAndProduct).related "buyer" = .ok r ∧
      ((empty.run .standard orderAndProduct).builder .standard).newEntity product elements [r] = .ok made :=
    ⟨_, _, _, _, rfl, rfl, rfl, rfl⟩
  obtain ⟨product, elements, r, made, entity, _, related, accepted⟩ := accepted
  exact ⟨product, elements, r, made, entity, related, accepted, Builder.newEntity_of_other_related accepted⟩

/-- A product is made as if it stood at the end for orders, and is neither an order nor derived from one. -/
theorem product_made_at_orders :
    ∃ product elements r made, (empty.run .standard orderAndProduct).entity "Product" = .ok product ∧
      (empty.run .standard orderAndProduct).expressions ["id"] = .ok elements ∧
      (empty.run .standard orderAndProduct).related "buyer" = .ok r ∧
      ((empty.run .standard orderAndProduct).builder .standard).newEntity product elements [r] = .ok made ∧
      r ∈ made.node.related ∧ ¬ product.IsA r.source.entity := by
  refine ⟨_, _, _, _, rfl, rfl, rfl, rfl, List.mem_cons_self, ?_⟩
  unfold EntityType.IsA
  decide

end Session
end EntityQuery
