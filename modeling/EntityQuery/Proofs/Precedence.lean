import Mathlib.Data.List.Basic
import Mathlib.Logic.Basic
import EntityQuery.Rejection
/-!
# `Proofs.Precedence` — conditions in order, and the fault that is reported

A construction checks conditions one after another and fails at the first that does not hold, whatever is
wrong further on. The order is a list here. A construction that is made of others is judged by their lists
in a row, so each check is related to its own conditions once.

## Contents
* `Condition`, `FirstFault` — conditions in order, and the first that does not hold.
* `JudgedBy` — a construction that follows them; `judgedBy_ok`, `judgedBy_error`, `judgedBy_require`,
  `judgedBy_cons`.
* `JudgedBy.bind`, `JudgedBy.bind_cons` — one construction after another is judged by the conditions of both in
  a row.
* `JudgedBy.bind_of_ok`, `JudgedBy.map`, `JudgedBy.into` — what comes after adds no condition.
* `judgedBy_mapM` — a construction from each member of a list.
* `JudgedBy.of_cons`, `JudgedBy.of_append` — conditions that hold anyway; `JudgedBy.making` — what is made.
-/

namespace EntityQuery

/-! ## Conditions in order -/

/-- A condition on what is asked for, and which rejections report that it does not hold. -/
structure Condition where
  holds : Prop
  reported : Rejection → Prop

/-- **The first fault.** The rejection reports the first of the conditions that does not hold. -/
inductive FirstFault (cause : Rejection) : List Condition → Prop
  | here {k : Condition} {ks : List Condition} (broken : ¬ k.holds) (reports : k.reported cause) :
      FirstFault cause (k :: ks)
  | later {k : Condition} {ks : List Condition} (holds : k.holds) (rest : FirstFault cause ks) :
      FirstFault cause (k :: ks)

section Faults

variable {cause : Rejection} {ks js : List Condition} {k : Condition}

theorem firstFault_cons_iff :
    FirstFault cause (k :: ks) ↔ ¬ k.holds ∧ k.reported cause ∨ k.holds ∧ FirstFault cause ks := by
  constructor
  · rintro (⟨broken, reports⟩ | ⟨holds, rest⟩)
    · exact .inl ⟨broken, reports⟩
    · exact .inr ⟨holds, rest⟩
  · rintro (⟨broken, reports⟩ | ⟨holds, rest⟩)
    · exact .here broken reports
    · exact .later holds rest

theorem firstFault_singleton_iff : FirstFault cause [k] ↔ ¬ k.holds ∧ k.reported cause := by
  have nil : ¬ FirstFault cause [] := nofun
  rw [firstFault_cons_iff, or_iff_left fun h => nil h.2]

/-- The first fault in two lists of conditions is that of the first list, or that of the second when all of
    the first hold. -/
theorem firstFault_append_iff :
    FirstFault cause (ks ++ js) ↔ FirstFault cause ks ∨ (∀ k ∈ ks, k.holds) ∧ FirstFault cause js := by
  induction ks with
  | nil =>
    have nil : ¬ FirstFault cause [] := nofun
    rw [List.nil_append, or_iff_right nil, and_iff_right (List.forall_mem_nil _)]
  | cons k ks ih =>
    rw [List.cons_append, firstFault_cons_iff, firstFault_cons_iff, ih, List.forall_mem_cons]
    constructor
    · rintro (here | ⟨holds, later | ⟨all, other⟩⟩)
      · exact .inl (.inl here)
      · exact .inl (.inr ⟨holds, later⟩)
      · exact .inr ⟨⟨holds, all⟩, other⟩
    · rintro ((here | ⟨holds, later⟩) | ⟨⟨holds, all⟩, other⟩)
      · exact .inl here
      · exact .inr ⟨holds, .inl later⟩
      · exact .inr ⟨holds, .inr ⟨all, other⟩⟩

/-- A fault is reported by one of the conditions, which does not hold. -/
theorem FirstFault.exists_mem (fault : FirstFault cause ks) : ∃ k ∈ ks, ¬ k.holds ∧ k.reported cause := by
  induction fault with
  | here broken reports => exact ⟨_, List.mem_cons_self, broken, reports⟩
  | later _ _ ih =>
    obtain ⟨k, hk, faulty⟩ := ih
    exact ⟨k, List.mem_cons_of_mem _ hk, faulty⟩

/-- Where there is a fault, not all conditions hold. -/
theorem FirstFault.not_all (fault : FirstFault cause ks) : ¬ ∀ k ∈ ks, k.holds := by
  intro all
  obtain ⟨k, hk, broken, _⟩ := fault.exists_mem
  exact broken (all k hk)

end Faults

/-- **Judged by conditions in order.** The construction succeeds exactly when all conditions hold, what it
    makes is as stated, and it fails for the first fault and for no other cause. -/
structure JudgedBy {α : Type} (ks : List Condition) (x : Except Rejection α) (made : α → Prop) : Prop where
  accepted : (∃ a, x = .ok a) ↔ ∀ k ∈ ks, k.holds
  made : ∀ a, x = .ok a → made a
  rejected : ∀ cause, x = .error cause ↔ FirstFault cause ks

section Judging

variable {α β : Type} {ks js : List Condition}

/-- What succeeds is judged by conditions that hold. -/
theorem judgedBy_ok {a : α} {made : α → Prop} (all : ∀ k ∈ ks, k.holds) (h : made a) :
    JudgedBy ks (.ok a) made := by
  refine ⟨iff_of_true ⟨a, rfl⟩ all, ?_, ?_⟩
  · intro b hb
    exact Except.ok.inj hb ▸ h
  · intro cause
    exact iff_of_false nofun fun fault => fault.not_all all

/-- What always succeeds is judged by no conditions. -/
theorem judgedBy_nil {x : Except Rejection α} {a : α} (h : x = .ok a) : JudgedBy [] x fun _ => True := by
  rw [h]
  exact judgedBy_ok (List.forall_mem_nil _) trivial

/-- What fails is judged by conditions of which its cause is the only first fault. -/
theorem judgedBy_error {cause : Rejection} {made : α → Prop}
    (faults : ∀ c, FirstFault c ks ↔ c = cause) : JudgedBy ks (.error cause : Except Rejection α) made := by
  have fault : FirstFault cause ks := (faults cause).mpr rfl
  refine ⟨iff_of_false nofun fault.not_all, nofun, ?_⟩
  intro c
  rw [faults, Except.error.injEq]
  exact eq_comm

/-- A rule that is enforced is judged by the condition that it decides. -/
theorem judgedBy_require {rule : Bool} {cause : Rejection} {k : Condition} (decides : rule = true ↔ k.holds)
    (reports : ∀ c, k.reported c ↔ c = cause) : JudgedBy [k] (require rule cause) fun _ => k.holds := by
  by_cases holds : k.holds
  · rw [decides.mpr holds]
    exact judgedBy_ok (List.forall_mem_singleton.mpr holds) holds
  · have fails : rule = false := by rwa [← decides, Bool.not_eq_true] at holds
    rw [fails]
    refine judgedBy_error fun c => ?_
    rw [firstFault_singleton_iff, and_iff_right holds]
    exact reports c

/-- What is refused at once when a condition does not hold is judged by it first. -/
theorem judgedBy_cons {k : Condition} {x : Except Rejection α} {made : α → Prop}
    (pass : k.holds → JudgedBy ks x made)
    (refuse : ¬ k.holds → ∃ cause, x = .error cause ∧ ∀ c, k.reported c ↔ c = cause) :
    JudgedBy (k :: ks) x made := by
  by_cases holds : k.holds
  · obtain ⟨accepted, made, rejected⟩ := pass holds
    refine ⟨?_, made, ?_⟩
    · rw [accepted, List.forall_mem_cons, and_iff_right holds]
    · intro cause
      rw [rejected, firstFault_cons_iff, or_iff_right fun h => h.1 holds, and_iff_right holds]
  · obtain ⟨cause, rfl, reports⟩ := refuse holds
    apply judgedBy_error
    intro c
    rw [firstFault_cons_iff, or_iff_left fun h => holds h.1, and_iff_right holds]
    exact reports c

/-- **One after another.** When what comes second is judged by further conditions, whatever the first makes,
    both are judged by all the conditions in a row. -/
theorem JudgedBy.bind {x : Except Rejection α} {f : α → Except Rejection β} {middle : α → Prop}
    {made : β → Prop} (first : JudgedBy ks x middle) (second : ∀ a, middle a → JudgedBy js (f a) made) :
    JudgedBy (ks ++ js) (x >>= f) made := by
  cases x with
  | ok a =>
    have all := first.accepted.mp ⟨a, rfl⟩
    have second := second a (first.made a rfl)
    refine ⟨?_, second.made, ?_⟩
    · rw [List.forall_mem_append, and_iff_right all]
      exact second.accepted
    · intro cause
      -- with all the first conditions in force, a fault is one of the second
      have none : ¬ FirstFault cause ks := fun fault => fault.not_all all
      rw [firstFault_append_iff, or_iff_right none, and_iff_right all]
      exact second.rejected cause
  | error cause =>
    have fault := (first.rejected cause).mp rfl
    refine judgedBy_error fun c => ?_
    rw [firstFault_append_iff, or_iff_left fun h => fault.not_all h.1, ← first.rejected]
    rw [Except.error.injEq]
    exact eq_comm

/-- One check, and then others. -/
theorem JudgedBy.bind_cons {k : Condition} {x : Except Rejection α} {f : α → Except Rejection β}
    {middle : α → Prop} {made : β → Prop} (first : JudgedBy [k] x middle)
    (second : ∀ a, middle a → JudgedBy js (f a) made) : JudgedBy (k :: js) (x >>= f) made :=
  first.bind second

/-- What comes second may be bound to succeed on what the first makes. Then nothing more is judged. -/
theorem JudgedBy.bind_of_ok {x : Except Rejection α} {f : α → Except Rejection β} {middle : α → Prop}
    {made : β → Prop} (first : JudgedBy ks x middle) (second : ∀ a, middle a → ∃ b, f a = .ok b ∧ made b) :
    JudgedBy ks (x >>= f) made := by
  have both : JudgedBy (ks ++ []) (x >>= f) made := by
    refine first.bind fun a ha => ?_
    obtain ⟨b, hb, h⟩ := second a ha
    rw [hb]
    exact judgedBy_ok (List.forall_mem_nil _) h
  rwa [List.append_nil] at both

/-- What is made may be turned into something else. -/
theorem JudgedBy.map {x : Except Rejection α} {f : α → β} {middle : α → Prop} {made : β → Prop}
    (h : JudgedBy ks x middle) (turns : ∀ a, middle a → made (f a)) :
    JudgedBy ks (x >>= fun a => pure (f a)) made :=
  h.bind_of_ok fun a ha => ⟨f a, rfl, turns a ha⟩

/-- What is made is known from elsewhere. -/
theorem JudgedBy.making {x : Except Rejection α} {made other : α → Prop} (h : JudgedBy ks x made)
    (makes : ∀ a, x = .ok a → other a) : JudgedBy ks x other :=
  ⟨h.accepted, makes, h.rejected⟩

/-- A condition that holds need not be judged. -/
theorem JudgedBy.of_cons {k : Condition} {x : Except Rejection α} {made : α → Prop}
    (h : JudgedBy (k :: ks) x made) (holds : k.holds) : JudgedBy ks x made := by
  refine ⟨?_, h.made, ?_⟩
  · rw [h.accepted, List.forall_mem_cons, and_iff_right holds]
  · intro cause
    rw [h.rejected, firstFault_cons_iff, or_iff_right fun fault => fault.1 holds, and_iff_right holds]

/-- Conditions that follow from those before them need not be judged. -/
theorem JudgedBy.of_append {x : Except Rejection α} {made : α → Prop} (h : JudgedBy (ks ++ js) x made)
    (follow : (∀ k ∈ ks, k.holds) → ∀ k ∈ js, k.holds) : JudgedBy ks x made := by
  refine ⟨?_, h.made, ?_⟩
  · rw [h.accepted, List.forall_mem_append, and_iff_left_of_imp follow]
  · intro cause
    rw [h.rejected, firstFault_append_iff, or_iff_left fun fault => fault.2.not_all (follow fault.1)]

/-- Whatever is made may be turned into anything. -/
theorem JudgedBy.into {x : Except Rejection α} {f : α → β} {made : α → Prop} (h : JudgedBy ks x made) :
    JudgedBy ks (x >>= fun a => pure (f a)) fun _ => True :=
  h.map fun _ _ => trivial

/-- Constructions from the members of a list are judged member by member, from the left. -/
theorem judgedBy_mapM {f : α → Except Rejection β} {k : α → Condition} {made : α → β → Prop}
    (each : ∀ a, JudgedBy [k a] (f a) (made a)) (as : List α) :
    JudgedBy (as.map k) (as.mapM f) (List.Forall₂ made as) := by
  induction as with
  | nil => exact judgedBy_ok (List.forall_mem_nil _) .nil
  | cons a as ih =>
    rw [List.mapM_cons]
    apply (each a).bind
    intro b first
    exact ih.map fun bs rest => .cons first rest

end Judging

end EntityQuery
