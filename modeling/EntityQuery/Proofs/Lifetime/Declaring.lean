import EntityQuery.Proofs.Lifetime.Requests
import EntityQuery.Session.Action
/-!
# `Proofs.Lifetime.Declaring` — an end and its relationship, along a run

An end knows which relationship declared it, and does not hold it. It gives the relationship back while
something else holds it, and never again after the last of these is let go: no action makes the relationship
anew, since what is declared later has an identity of its own, and no action brings it back, since whatever
an action makes is made of what is owned.

The invariant says that a session tells its relationships apart. It does not have to remember the ones that
are gone: an end that outlives its relationship still carries the identity, and a relationship that the
session has ever known is *past*, with an identity that the session gives to nothing else.

## Contents
* `Session.alive_iff` — alive means owned, where everything owned is traced.
* `Session.Knows`, `Session.Past`, `Session.Orderly` — the invariant.
* `owns_of_owns_act`, `knows_of_knows_act` — what one action can do.
* `Orderly.act`, `Past.act`, `alive_of_alive_act`, and the same for `play`.
* `RelationshipEnd.Follows`, what an end tells of its relationship; `follows_of_play`.
-/

namespace EntityQuery

/-! ## Ends -/

namespace RelationshipEnd

variable {alive : Handle → Bool} {e : RelationshipEnd} {r : Relationship}

theorem declaring?_eq_some_iff :
    e.declaring? alive = some r ↔ alive e.relationship.id = true ∧ e.relationship = r := by
  unfold declaring?
  by_cases h : alive e.relationship.id = true
  · simp [h]
  · simp [h]

theorem declaring?_eq_none_iff : e.declaring? alive = none ↔ alive e.relationship.id = false := by
  unfold declaring?
  by_cases h : alive e.relationship.id = true
  · simp [h]
  · simp [h]

/-- An end whose relationship is gone has no name for it. -/
theorem declaringName_of_none (gone : e.declaring? alive = none) : e.declaringName alive = "" := by
  rw [declaringName, gone]
  rfl

end RelationshipEnd

namespace Session

variable {rules : TypeRules} {s : Session} {a : Action} {v w : Value} {r : Relationship} {id : Handle}

/-! ## The invariant -/

/-- **Alive means owned,** where everything owned is traced. -/
theorem alive_iff (traced : ∀ w, s.Owns w → w.Traced) :
    s.alive id = true ↔ ∃ r, s.Owns (.relationship r) ∧ r.id = id := by
  unfold alive
  rw [List.any_eq_true]
  constructor
  · rintro ⟨entry, held, mentioned⟩
    have owned : s.Owns entry.2 := ⟨entry, held, Value.reaches_self _⟩
    obtain ⟨r, reached, same⟩ := (traced _ owned id).mp mentioned
    exact ⟨r, ⟨entry, held, reached⟩, same⟩
  · rintro ⟨r, ⟨entry, held, reached⟩, same⟩
    have owned : s.Owns entry.2 := ⟨entry, held, Value.reaches_self _⟩
    exact ⟨entry, held, (traced _ owned id).mpr ⟨r, reached, same⟩⟩

/-- The session knows a relationship: it owns it, or one of its ends. -/
def Knows (s : Session) (r : Relationship) : Prop :=
  s.Owns (.relationship r) ∨ ∃ e : RelationshipEnd, s.Owns (.relationshipEnd e) ∧ e.relationship = r

/-- **Past.** The relationship was declared before, no other that the session knows has its identity, and
    the entities it joins reach older relationships only. -/
structure Past (s : Session) (r : Relationship) : Prop where
  earlier : r.id.site < s.site
  one : ∀ q, s.Knows q → q.id = r.id → q = r
  older : ∀ e : RelationshipEnd, e.relationship = r → ∀ q, (Value.entity e.entity).Reaches (.relationship q) →
    q.id.site < r.id.site

/-- **Orderly.** What the session owns is traced, its related entities each stay within one relationship,
    and all relationships it knows are past. -/
structure Orderly (s : Session) : Prop where
  traced : ∀ w, s.Owns w → w.Traced
  related : ∀ j, s.Owns (.related j) → j.source.sameRelationship j.target = true
  past : ∀ r, s.Knows r → s.Past r

theorem not_owns_empty : ¬ empty.Owns w := by
  rintro ⟨entry, held, _⟩
  exact absurd held List.not_mem_nil

theorem not_knows_empty : ¬ empty.Knows r := by
  rintro (owned | ⟨e, owned, _⟩)
  · exact not_owns_empty owned
  · exact not_owns_empty owned

/-- A session that holds nothing is orderly. -/
theorem orderly_empty : empty.Orderly where
  traced _ owned := absurd owned not_owns_empty
  related _ owned := absurd owned not_owns_empty
  past _ known := absurd known not_knows_empty

/-- In an orderly session the relationship of an end that is owned is owned too, when it is alive. -/
theorem Orderly.upgrades (orderly : s.Orderly) : s.Upgrades := by
  intro e owned alive
  obtain ⟨r, owns, same⟩ := (alive_iff orderly.traced).mp alive
  have known : s.Knows e.relationship := .inr ⟨e, owned, rfl⟩
  have one : r = e.relationship := (orderly.past _ known).one r (.inl owns) same
  exact one ▸ owns

/-! ## One action -/

/-- The value that an action makes, if it makes one. -/
def made? (rules : TypeRules) (s : Session) : Action → Option Value
  | .step (.make _ request) => (s.perform rules request).toOption
  | _ => none

/-- What an action makes is supplied. -/
theorem supplies_of_made? (extract : rules.Extract) (upgrades : s.Upgrades) (made : s.made? rules a = some v) :
    s.Supplies v v := by
  cases a with
  | step t =>
    cases t with
    | drop names => exact absurd made nofun
    | make name request =>
      rw [made?] at made
      cases performed : s.perform rules request with
      | error _ =>
        rw [performed] at made
        exact absurd made nofun
      | ok u =>
        rw [performed] at made
        obtain rfl := Option.some.inj made
        exact supplies_of_perform extract upgrades performed
  | copy _ _ | take _ _ _ | declaring _ _ => exact absurd made nofun

/-- **What an action can do to what is owned.** What is owned after it was owned before, or is reached from
    the value that the action makes. -/
theorem owns_of_owns_act (upgrades : s.Upgrades) (owns : (s.act rules a).Owns w) :
    s.Owns w ∨ ∃ v, s.made? rules a = some v ∧ v.Reaches w := by
  cases a with
  | step t =>
    cases t with
    | drop names => exact .inl (owns_of_owns_drop owns)
    | make name request =>
      rw [act, Session.step] at owns
      cases performed : s.perform rules request with
      | error _ =>
        rw [performed] at owns
        exact .inl owns
      | ok v =>
        rw [performed] at owns
        cases name with
        | none => exact .inl owns
        | some name =>
          rcases owns_of_owns_hold owns with reached | owns
          · have made : s.made? rules (.step (.make (some name) request)) = some v := by
              rw [made?, performed]
              rfl
            exact .inr ⟨v, made, reached⟩
          · exact .inl owns
  | copy source name =>
    rcases owns_of_owns_holdFound owns with ⟨v, found, reached⟩ | owns
    · exact .inl ((owns_of_find? found).trans reached)
    · exact .inl owns
  | take source place name =>
    rcases owns_of_owns_holdFound owns with ⟨v, found, reached⟩ | owns
    · obtain ⟨u, held, part⟩ := Option.bind_eq_some_iff.mp found
      have edge : u.Reaches v := Value.reaches_of_mem_owned (List.mem_of_getElem? part)
      exact .inl ((owns_of_find? held).trans (edge.trans reached))
    · exact .inl owns
  | declaring relEnd name =>
    rcases owns_of_owns_holdFound owns with ⟨v, found, reached⟩ | owns
    · obtain ⟨u, held, upgraded⟩ := Option.bind_eq_some_iff.mp found
      -- only an end is asked, and it answers while its relationship is alive
      cases u with
      | relationshipEnd e =>
        obtain ⟨r, answer, rfl⟩ := Option.map_eq_some_iff.mp upgraded
        obtain ⟨alive, rfl⟩ := RelationshipEnd.declaring?_eq_some_iff.mp answer
        exact .inl ((upgrades e (owns_of_find? held) alive).trans reached)
      | _ => exact absurd upgraded (Option.some_ne_none v).symm
    · exact .inl owns

/-- What is owned after an action was owned before, or is new with the value that the action makes. -/
theorem owns_or_newIn_of_owns_act (extract : rules.Extract) (upgrades : s.Upgrades) (owns : (s.act rules a).Owns w) :
    s.Owns w ∨ ∃ v, s.made? rules a = some v ∧ w.NewIn s v := by
  rcases owns_of_owns_act upgrades owns with owns | ⟨v, made, reached⟩
  · exact .inl owns
  · have supplied : s.Supplies v w := (supplies_of_made? extract upgrades made).reached reached
    rcases supplied.owned_or_new with owns | new
    · exact .inl owns
    · exact .inr ⟨v, made, new⟩

/-- A relationship declared by an action: the value that it makes, with the identity of the site, between
    entities that are owned. -/
structure Declares (rules : TypeRules) (s : Session) (a : Action) (r : Relationship) : Prop where
  made : s.made? rules a = some (.relationship r)
  id : r.id = .root s.site
  entity : ∀ e : RelationshipEnd, e.relationship = r → s.Owns (.entity e.entity)

/-- A relationship that is made is known before, or is declared with its ends. -/
theorem knows_or_declares (extract : rules.Extract) (upgrades : s.Upgrades)
    (made : s.made? rules a = some (.relationship r)) : s.Knows r ∨ s.Declares rules a r := by
  have supplied : s.Supplies (.relationship r) (.relationship r) := supplies_of_made? extract upgrades made
  by_cases known : s.Knows r
  · exact .inl known
  have new : (Value.relationship r).NewIn s (.relationship r) := by
    rcases supplied.owned_or_new with owns | new
    · exact absurd (.inl owns) known
    · exact new
  refine .inr ⟨made, (new.relationship r rfl).2, ?_⟩
  rintro e rfl
  -- an end that was owned before would have made the relationship known
  rcases (supplies_relationshipEnd supplied).owned_or_new with owns | new
  · exact absurd (.inr ⟨e, owns, rfl⟩) known
  · exact (new.relationshipEnd e rfl).2

/-- **What an action can do to what is known.** A relationship known after it was known before, or is the one
    that the action declares. -/
theorem knows_of_knows_act (extract : rules.Extract) (upgrades : s.Upgrades) (known : (s.act rules a).Knows r) :
    s.Knows r ∨ s.Declares rules a r := by
  rcases known with owned | ⟨e, owned, rfl⟩
  · rcases owns_or_newIn_of_owns_act extract upgrades owned with owns | ⟨v, made, new⟩
    · exact .inl (.inl owns)
    · obtain ⟨rfl, _⟩ := new.relationship r rfl
      exact knows_or_declares extract upgrades made
  · rcases owns_or_newIn_of_owns_act extract upgrades owned with owns | ⟨v, made, new⟩
    · exact .inl (.inr ⟨e, owns, rfl⟩)
    · obtain ⟨rfl, _⟩ := new.relationshipEnd e rfl
      exact knows_or_declares extract upgrades made

/-! ## The invariant along a run -/

/-- What is past stays past: what an action declares has the identity of a later site. -/
theorem Past.act (past : s.Past r) (extract : rules.Extract) (upgrades : s.Upgrades) (a : Action) :
    (s.act rules a).Past r where
  earlier := by
    have before := past.earlier
    rw [site_act]
    omega
  one := by
    intro q known same
    rcases knows_of_knows_act extract upgrades known with known | declared
    · exact past.one q known same
    · have before := past.earlier
      rw [← same, declared.id, Handle.root_site] at before
      omega
  older := past.older

/-- What an action declares is past after it. -/
theorem Declares.past (orderly : s.Orderly) (extract : rules.Extract) (declared : s.Declares rules a r) :
    (s.act rules a).Past r where
  earlier := by
    rw [site_act, declared.id, Handle.root_site]
    omega
  one := by
    intro q known same
    rcases knows_of_knows_act extract orderly.upgrades known with known | again
    · -- what was known before has the identity of an earlier site
      have before := (orderly.past q known).earlier
      rw [same, declared.id, Handle.root_site] at before
      omega
    · have value : Value.relationship q = .relationship r := Option.some.inj (again.made.symm.trans declared.made)
      exact Value.relationship.inj value
  older := by
    intro e its q reached
    have known : s.Knows q := .inl ((declared.entity e its).trans reached)
    rw [declared.id, Handle.root_site]
    exact (orderly.past q known).earlier

/-- **One action keeps a session orderly.** -/
theorem Orderly.act (orderly : s.Orderly) (extract : rules.Extract) (a : Action) : (s.act rules a).Orderly where
  traced := by
    intro w owned
    rcases owns_of_owns_act orderly.upgrades owned with owns | ⟨v, made, reached⟩
    · exact orderly.traced w owns
    · have supplied := supplies_of_made? extract orderly.upgrades made
      exact (supplied.reached reached).traced orderly.traced
  related := by
    intro j owned
    rcases owns_or_newIn_of_owns_act extract orderly.upgrades owned with owns | ⟨v, _, new⟩
    · exact orderly.related j owns
    · exact new.related j rfl
  past := by
    intro r known
    rcases knows_of_knows_act extract orderly.upgrades known with known | declared
    · exact (orderly.past r known).act extract orderly.upgrades a
    · exact declared.past orderly extract

/-- **Nothing comes back.** A past relationship that is alive after an action was alive before it. -/
theorem alive_of_alive_act (orderly : s.Orderly) (extract : rules.Extract) (past : s.Past r)
    (alive : (s.act rules a).alive r.id = true) : s.alive r.id = true := by
  obtain ⟨q, owned, same⟩ := (alive_iff (orderly.act extract a).traced).mp alive
  have one : q = r := (past.act extract orderly.upgrades a).one q (.inl owned) same
  subst one
  rcases owns_or_newIn_of_owns_act extract orderly.upgrades owned with owns | ⟨v, _, new⟩
  · exact (alive_iff orderly.traced).mpr ⟨q, owns, rfl⟩
  · -- a new relationship would have the identity of this site
    have before := past.earlier
    rw [(new.relationship q rfl).2, Handle.root_site] at before
    omega

variable {actions : List Action}

/-- **A run keeps a session orderly.** -/
theorem Orderly.play (orderly : s.Orderly) (extract : rules.Extract) (actions : List Action) :
    (s.play rules actions).Orderly := by
  induction actions generalizing s with
  | nil => exact orderly
  | cons a as ih => exact ih (orderly.act extract a)

/-- What is past stays past along a run. -/
theorem Past.play (past : s.Past r) (orderly : s.Orderly) (extract : rules.Extract) (actions : List Action) :
    (s.play rules actions).Past r := by
  induction actions generalizing s with
  | nil => exact past
  | cons a as ih => exact ih (past.act extract orderly.upgrades a) (orderly.act extract a)

/-- **Nothing comes back along a run.** -/
theorem alive_of_alive_play (orderly : s.Orderly) (extract : rules.Extract) (past : s.Past r)
    (alive : (s.play rules actions).alive r.id = true) : s.alive r.id = true := by
  induction actions generalizing s with
  | nil => exact alive
  | cons a as ih =>
    have after : (s.act rules a).alive r.id = true :=
      ih (orderly.act extract a) (past.act extract orderly.upgrades a) alive
    exact alive_of_alive_act orderly extract past after

end Session

/-! ## What an end tells -/

section Ends

variable {rules : TypeRules} {s : Session} {e : RelationshipEnd} {r : Relationship} {j : Related}

/-- An end does not hold its relationship, once that is past: the entity at the end is older. -/
theorem RelationshipEnd.not_reaches_relationship (past : s.Past e.relationship) :
    ¬ (Value.relationshipEnd e).Reaches (.relationship e.relationship) := by
  intro reached
  rcases Value.reaches_iff.mp reached with self | ⟨w, edge, reached⟩
  · exact absurd self nofun
  · obtain rfl := List.mem_singleton.mp edge
    have before := past.older e rfl e.relationship reached
    omega

/-- The ends of a related entity that is owned are of one relationship. -/
theorem Session.Orderly.relationship_eq (orderly : s.Orderly) (owned : s.Owns (.related j)) :
    j.source.relationship = j.target.relationship := by
  have same : j.source.relationship.id = j.target.relationship.id := by
    simpa [RelationshipEnd.sameRelationship] using orderly.related j owned
  have source : s.Knows j.source.relationship := .inr ⟨_, owned.trans (Value.related_reaches_source j), rfl⟩
  have target : s.Knows j.target.relationship := .inr ⟨_, owned.trans (Value.related_reaches_target j), rfl⟩
  exact (orderly.past _ target).one _ source same

/-- A related entity reaches the relationship of its ends through its reference, if at all. -/
theorem Session.Orderly.related_reaches_iff (orderly : s.Orderly) (owned : s.Owns (.related j)) :
    (Value.related j).Reaches (.relationship j.target.relationship) ↔
      (Value.expression j.reference).Reaches (.relationship j.target.relationship) := by
  have one := orderly.relationship_eq owned
  have known : s.Knows j.target.relationship := .inr ⟨_, owned.trans (Value.related_reaches_target j), rfl⟩
  have past : s.Past j.target.relationship := orderly.past _ known
  constructor
  · intro reached
    rcases Value.reaches_iff.mp reached with self | ⟨w, edge, reached⟩
    · exact absurd self nofun
    · have parts : w = .relationshipEnd j.source ∨ w = .relationshipEnd j.target ∨ w = .expression j.reference := by
        simpa [Value.owned] using edge
      rcases parts with rfl | rfl | rfl
      · rw [← one] at past reached
        exact absurd reached (RelationshipEnd.not_reaches_relationship past)
      · exact absurd reached (RelationshipEnd.not_reaches_relationship past)
      · exact reached
  · intro reached
    exact (Value.related_reaches_reference j).trans reached

/-- **Decided by identity.** Which relationships are alive has no part in whether a related entity is made,
    or why it is not: it shows only in the names that stand in the error for two relationships. -/
def Related.DecidedByIdentity (rules : TypeRules) (source target : RelationshipEnd) (reference : Expr) : Prop :=
  if source.sameRelationship target then
    ∃ outcome, ∀ alive, Related.make rules alive source target reference = outcome
  else
    ∀ alive, Related.make rules alive source target reference =
      .error (.targetEndFromDifferentRelationship .targetEnd (source.declaringName alive) (target.declaringName alive))

theorem Related.decidedByIdentity (rules : TypeRules) (source target : RelationshipEnd) (reference : Expr) :
    Related.DecidedByIdentity rules source target reference := by
  unfold Related.DecidedByIdentity
  by_cases same : source.sameRelationship target = true
  · rw [if_pos same]
    -- the first condition passes, and no later one looks at what is alive
    refine ⟨Related.make rules (fun _ => true) source target reference, fun alive => ?_⟩
    unfold Related.make
    rw [same]
    rfl
  · rw [if_neg same]
    intro alive
    have different : source.sameRelationship target = false := by simpa using same
    unfold Related.make
    rw [different]
    rfl

/-- A walk cannot start from an end whose relationship is gone. -/
theorem Builder.navigate_of_none {b : Builder} (gone : e.declaring? b.alive = none) (source : Expr)
    (toEnd : RelationshipEnd) :
    b.navigate source e toEnd = .error (.endNotInRelationship .fromEnd e.name "") := by
  unfold navigate
  rw [gone, RelationshipEnd.declaringName_of_none gone]

/-- **What an end tells of its relationship** in a session, and after any further actions. -/
structure RelationshipEnd.Follows (rules : TypeRules) (s : Session) (e : RelationshipEnd) : Prop where
  /-- It gives the relationship that declared it back, and no other, while something held reaches it. -/
  declaring : ∀ r, e.declaring? s.alive = some r ↔
    r = e.relationship ∧ ∃ entry ∈ s.held, entry.2.Reaches (.relationship e.relationship)
  /-- The end itself does not reach it. -/
  notByEnd : ¬ (Value.relationshipEnd e).Reaches (.relationship e.relationship)
  /-- A related entity between ends of it reaches it only where its reference does. -/
  notByRelated : ∀ j : Related, s.Owns (.related j) → j.source = e ∨ j.target = e →
    ((Value.related j).Reaches (.relationship e.relationship) ↔
      (Value.expression j.reference).Reaches (.relationship e.relationship))
  /-- Once it is gone, it is gone whatever is done. -/
  gone : e.declaring? s.alive = none → ∀ actions, e.declaring? (s.play rules actions).alive = none
  /-- No walk starts from the end any more, over whatever rules and operands. -/
  navigate : e.declaring? s.alive = none → ∀ asked here source toEnd,
    Builder.navigate ⟨asked, s.alive, here⟩ source e toEnd = .error (.endNotInRelationship .fromEnd e.name "")
  /-- The identity outlives it: another end that is owned shares it only by being an end of it. -/
  identity : ∀ other, s.Owns (.relationshipEnd other) →
    (e.sameRelationship other = true ↔ other.relationship = e.relationship)
  /-- Related entities from the end or to it are decided by identity. -/
  related : ∀ asked other reference,
    Related.DecidedByIdentity asked e other reference ∧ Related.DecidedByIdentity asked other e reference

/-- An end whose relationship is past follows it, in an orderly session. -/
theorem Session.Past.follows (past : s.Past e.relationship) (orderly : s.Orderly) (extract : rules.Extract) :
    e.Follows rules s where
  declaring := by
    intro r
    rw [RelationshipEnd.declaring?_eq_some_iff, Session.alive_iff orderly.traced]
    constructor
    · rintro ⟨⟨q, owned, same⟩, rfl⟩
      have one : q = e.relationship := past.one q (.inl owned) same
      exact ⟨rfl, one ▸ owned⟩
    · rintro ⟨rfl, owned⟩
      exact ⟨⟨e.relationship, owned, rfl⟩, rfl⟩
  notByEnd := RelationshipEnd.not_reaches_relationship past
  notByRelated := by
    rintro j owned (rfl | rfl)
    · have one := orderly.relationship_eq owned
      rw [one]
      exact orderly.related_reaches_iff owned
    · exact orderly.related_reaches_iff owned
  gone := by
    intro gone actions
    rw [RelationshipEnd.declaring?_eq_none_iff] at gone ⊢
    by_contra still
    have alive : (s.play rules actions).alive e.relationship.id = true := by simpa using still
    have before := Session.alive_of_alive_play orderly extract past alive
    rw [gone] at before
    exact absurd before Bool.false_ne_true
  navigate gone asked here source toEnd := Builder.navigate_of_none gone source toEnd
  identity := by
    intro other owned
    have known : s.Knows other.relationship := .inr ⟨other, owned, rfl⟩
    simp only [RelationshipEnd.sameRelationship, beq_iff_eq]
    constructor
    · intro same
      exact past.one _ known same.symm
    · intro one
      rw [one]
  related asked other reference :=
    ⟨Related.decidedByIdentity asked e other reference, Related.decidedByIdentity asked other e reference⟩

namespace Session

/-- **An end follows its relationship.** Whatever is done with what is held, from the start until an end is
    held, or reached from something held, and from then on: the end tells of its relationship what is true
    of it, and nothing once it is gone. -/
theorem follows_of_play (extract : rules.Extract) (earlier later : List Action)
    (owned : (empty.play rules earlier).Owns (.relationshipEnd e)) :
    e.Follows rules ((empty.play rules earlier).play rules later) := by
  have orderly : (empty.play rules earlier).Orderly := orderly_empty.play extract earlier
  have past : (empty.play rules earlier).Past e.relationship := orderly.past _ (.inr ⟨e, owned, rfl⟩)
  exact (past.play orderly extract later).follows (orderly.play extract later) extract

/-- A relationship between persons, and one of its ends, which stays when the relationship is let go. -/
def friendsAndEnd : List Action := [
  .step (.make (some "Person") (.model (.entity ⟨"Town", "Person"⟩ none [⟨⟨"Id", .primitive .int32⟩, true⟩]))),
  .step (.make (some "Friends") (.model (.relationship ⟨"Town", "Friends"⟩
    [⟨"Asking", "Person", .many⟩, ⟨"Asked", "Person", .one⟩]))),
  .step (.make (some "asking") (.model (.relationshipEnd "Friends" "Asking")))]

/-- The relationship is let go, and another of the same name and ends is declared. -/
def friendsAnew : List Action := [
  .step (.drop ["Friends"]),
  .step (.make (some "Friends") (.model (.relationship ⟨"Town", "Friends"⟩
    [⟨"Asking", "Person", .many⟩, ⟨"Asked", "Person", .one⟩])))]

theorem follows_friendsAnew :
    ∃ e r, (empty.play .standard friendsAndEnd).find? "asking" = some (.relationshipEnd e) ∧
      ((empty.play .standard friendsAndEnd).play .standard friendsAnew).find? "Friends" = some (.relationship r) ∧
      r.fullName = e.relationship.fullName ∧
      e.declaring? ((empty.play .standard friendsAndEnd).play .standard friendsAnew).alive = none ∧
      e.Follows .standard ((empty.play .standard friendsAndEnd).play .standard friendsAnew) := by
  have extract : TypeRules.standard.Extract := TypeRules.extract_of_same rfl rfl
  refine ⟨_, _, rfl, rfl, rfl, rfl, ?_⟩
  exact follows_of_play extract friendsAndEnd friendsAnew (@owns_of_find? _ "asking" _ rfl)

end Session
end Ends
end EntityQuery
