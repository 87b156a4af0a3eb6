import Mathlib.Data.List.Forall2
import EntityQuery.Expr.Make
/-!
# `Proofs.Expr.Acceptance` — when a node is made, and which

One lemma for each way to make a node under an explicit type: it is made exactly when its rules hold, and it
is then the node one expects, with the very type it was given. Whatever is said of made nodes later starts
from these lemmas and never opens a construction again.

## Contents
* `bind_eq_ok_iff`, `pure_eq_ok_iff`, `mapM_eq_ok_iff` — fallible computations taken apart.
* `firstRepeated?_eq_none_iff`, `firstRepeated?_eq_some_iff` — when names are distinct, and otherwise.
* `mkConstant_eq_ok_iff` … `mkFilter_eq_ok_iff` — one for each node; `Lambda.make_eq_ok_iff`,
  `Related.make_eq_ok_iff`, `Binding.make_eq_ok_iff` for what nodes are made of.
-/

namespace EntityQuery

/-! ## Fallible computations -/

section Fallible

variable {ε α β : Type}

/-- Two computations in a row succeed when the first does and the second does on its value. -/
theorem bind_eq_ok_iff {x : Except ε α} {f : α → Except ε β} {r : β} :
    (x >>= f) = .ok r ↔ ∃ a, x = .ok a ∧ f a = .ok r := by
  cases x <;> simp [bind, Except.bind]

theorem pure_eq_ok_iff {a r : α} : (pure a : Except ε α) = .ok r ↔ r = a := by
  simp only [pure, Except.pure, Except.ok.injEq]
  exact eq_comm

/-- A computation done for every member of a list succeeds when it does for each, place by place. -/
theorem mapM_eq_ok_iff {f : α → Except ε β} {xs : List α} {ys : List β} :
    xs.mapM f = .ok ys ↔ List.Forall₂ (fun x y => f x = .ok y) xs ys := by
  induction xs generalizing ys with
  | nil =>
    rw [List.mapM_nil, pure_eq_ok_iff, List.forall₂_nil_left_iff]
  | cons x xs ih =>
    rw [List.mapM_cons, bind_eq_ok_iff, List.forall₂_cons_left_iff]
    constructor
    · rintro ⟨y, hy, h⟩
      obtain ⟨zs, hzs, h⟩ := bind_eq_ok_iff.mp h
      exact ⟨y, zs, hy, ih.mp hzs, pure_eq_ok_iff.mp h⟩
    · rintro ⟨y, zs, hy, hzs, rfl⟩
      exact ⟨y, hy, bind_eq_ok_iff.mpr ⟨zs, ih.mpr hzs, rfl⟩⟩

end Fallible

/-! ## Names -/

/-- No name is repeated when the names are distinct, also from those seen before. -/
theorem firstRepeated?_go_eq_none_iff {seen ns : List String} :
    firstRepeated?.go seen ns = none ↔ ns.Nodup ∧ ∀ n ∈ ns, n ∉ seen := by
  induction ns generalizing seen with
  | nil => simp [firstRepeated?.go]
  | cons n ns ih =>
    rw [firstRepeated?.go]
    by_cases h : n ∈ seen
    · rw [if_pos (by simpa using h)]
      refine iff_of_false (by simp) fun k => k.2 n List.mem_cons_self h
    · rw [if_neg (by simpa using h), ih, List.nodup_cons]
      constructor
      · rintro ⟨distinct, fresh⟩
        refine ⟨⟨fun k => fresh n k List.mem_cons_self, distinct⟩, ?_⟩
        intro m hm
        rcases List.mem_cons.mp hm with rfl | hm
        · exact h
        · exact fun k => fresh m hm (List.mem_cons_of_mem _ k)
      · rintro ⟨⟨new, distinct⟩, fresh⟩
        refine ⟨distinct, fun m hm k => ?_⟩
        rcases List.mem_cons.mp k with rfl | k
        · exact new hm
        · exact fresh m (List.mem_cons_of_mem _ hm) k

/-- **Distinct names.** A list has no repeated name exactly when its names are pairwise distinct. -/
theorem firstRepeated?_eq_none_iff {ns : List String} : firstRepeated? ns = none ↔ ns.Nodup := by
  rw [firstRepeated?, firstRepeated?_go_eq_none_iff]
  simp

/-- Going on after `seen`, the name found is the earliest that occurs before it or was seen. -/
theorem firstRepeated?_go_eq_some_iff {seen ns : List String} {n : String} :
    firstRepeated?.go seen ns = some n ↔
      ∃ before after, ns = before ++ n :: after ∧ before.Nodup ∧ (∀ m ∈ before, m ∉ seen) ∧
        (n ∈ before ∨ n ∈ seen) := by
  induction ns generalizing seen with
  | nil => simp [firstRepeated?.go]
  | cons m ns ih =>
    rw [firstRepeated?.go]
    by_cases h : m ∈ seen
    · rw [if_pos (by simpa using h), Option.some.injEq]
      constructor
      · rintro rfl
        exact ⟨[], ns, rfl, List.nodup_nil, List.forall_mem_nil _, .inr h⟩
      · rintro ⟨before, after, same, _, fresh, _⟩
        -- nothing comes before a name that was seen
        cases before with
        | nil => exact (List.cons.inj same).1
        | cons k before =>
          obtain ⟨rfl, _⟩ := List.cons.inj same
          exact absurd h (fresh m List.mem_cons_self)
    · rw [if_neg (by simpa using h), ih]
      constructor
      · rintro ⟨before, after, rfl, distinct, fresh, repeated⟩
        have new : m ∉ before := fun k => fresh m k List.mem_cons_self
        refine ⟨m :: before, after, rfl, List.nodup_cons.mpr ⟨new, distinct⟩, ?_, ?_⟩
        · exact List.forall_mem_cons.mpr ⟨h, fun k hk hs => fresh k hk (List.mem_cons_of_mem _ hs)⟩
        · simp only [List.mem_cons] at repeated ⊢
          tauto
      · rintro ⟨before, after, same, distinct, fresh, repeated⟩
        cases before with
        | nil =>
          obtain ⟨rfl, _⟩ := List.cons.inj same
          exact absurd repeated (by simp [h])
        | cons k before =>
          obtain ⟨rfl, rfl⟩ := List.cons.inj same
          obtain ⟨new, distinct⟩ := List.nodup_cons.mp distinct
          obtain ⟨_, fresh⟩ := List.forall_mem_cons.mp fresh
          refine ⟨before, after, rfl, distinct, ?_, ?_⟩
          · intro k hk seen
            rcases List.mem_cons.mp seen with rfl | seen
            · exact new hk
            · exact fresh k hk seen
          · simp only [List.mem_cons] at repeated ⊢
            tauto

/-- **The first repeated name** is the earliest that occurs before it. -/
theorem firstRepeated?_eq_some_iff {ns : List String} {n : String} :
    firstRepeated? ns = some n ↔
      ∃ before after, ns = before ++ n :: after ∧ before.Nodup ∧ n ∈ before := by
  rw [firstRepeated?, firstRepeated?_go_eq_some_iff]
  simp

/-! ## Leaves -/

section Nodes

variable {rules : TypeRules} {type : TypeUse} {e : Expr}

theorem Variable.make_eq_ok_iff {name : String} {v : Variable} :
    Variable.make name type = .ok v ↔ name ≠ "" ∧ v = ⟨name, type⟩ := by
  rw [Variable.make, require_bind_eq_ok_iff, pure_eq_ok_iff, bne_iff_ne]

theorem Expr.mkConstant_eq_ok_iff {value : Literal} :
    Expr.mkConstant rules type value = .ok e ↔
      rules.isScalar type.shape = true ∧ rules.carrier? type.shape = some value.kind ∧
        e = ⟨type, .constant value⟩ := by
  rw [Expr.mkConstant, require_bind_eq_ok_iff, require_bind_eq_ok_iff, pure_eq_ok_iff, beq_iff_eq]

theorem Expr.mkParameter_eq_ok_iff {name : String} :
    Expr.mkParameter name type = .ok e ↔
      isParameterName name = true ∧ e = ⟨type, .parameterReference name⟩ := by
  rw [Expr.mkParameter, require_bind_eq_ok_iff, pure_eq_ok_iff]

theorem Expr.mkScan_eq_ok_iff {extent : Extent} :
    Expr.mkScan rules type extent = .ok e ↔
      (∃ t, rules.element? type.shape = some t ∧ rules.equals t.shape extent.elementShape = true) ∧
        e = ⟨type, .scan extent⟩ := by
  rw [Expr.mkScan, require_bind_eq_ok_iff, pure_eq_ok_iff, Option.any_eq_true]

/-! ## Members and references -/

theorem Expr.mkProperty_eq_ok_iff {member : Member} {object : Expr} :
    Expr.mkProperty type member object = .ok e ↔
      member.isReadable = true ∧ e = ⟨type, .property member object⟩ := by
  rw [Expr.mkProperty, require_bind_eq_ok_iff, pure_eq_ok_iff]

theorem Expr.mkNavigation_eq_ok_iff {r : Relationship} {fromEnd toEnd : RelationshipEnd} {source : Expr} :
    Expr.mkNavigation type r fromEnd toEnd source = .ok e ↔
      fromEnd.isDeclaredBy r = true ∧ toEnd.isDeclaredBy r = true ∧
        e = ⟨type, .navigation r fromEnd toEnd source⟩ := by
  rw [Expr.mkNavigation, require_bind_eq_ok_iff, require_bind_eq_ok_iff, pure_eq_ok_iff]

theorem Expr.mkRef_eq_ok_iff {set : EntitySet} {keys : Expr} :
    Expr.mkRef rules type set keys = .ok e ↔
      rules.isReference type.shape = true ∧ e = ⟨type, .ref set keys⟩ := by
  rw [Expr.mkRef, require_bind_eq_ok_iff, pure_eq_ok_iff]

theorem Expr.mkDeref_eq_ok_iff {reference : Expr} :
    Expr.mkDeref rules type reference = .ok e ↔
      rules.isEntity type.shape = true ∧ rules.isReference reference.type.shape = true ∧
        e = ⟨type, .deref reference⟩ := by
  rw [Expr.mkDeref, require_bind_eq_ok_iff, require_bind_eq_ok_iff, pure_eq_ok_iff]

/-! ## Calls and instances -/

theorem FunctionDecl.returnType_eq_ok_iff {f : FunctionDecl} {t : TypeUse} :
    f.returnType = .ok t ↔ f.returnType? = some t := by
  unfold FunctionDecl.returnType
  cases f.returnType? <;> simp

theorem requireCount_eq_ok_iff {blamed : Argument} {expected found : Nat} :
    requireCount blamed expected found = .ok () ↔ expected = found := by
  rw [requireCount, require_eq_ok_iff, beq_iff_eq]

theorem requireSameUse_eq_ok_iff {demanded given : TypeUse} :
    requireSameUse demanded given = .ok () ↔ given.handle = demanded.handle := by
  rw [requireSameUse, require_eq_ok_iff, beq_iff_eq]

theorem Expr.mkFunction_eq_ok_iff {f : FunctionDecl} {arguments : List Expr} :
    Expr.mkFunction type f arguments = .ok e ↔
      ∃ returned, f.returnType? = some returned ∧ type.handle = returned.handle ∧
        f.parameters.length = arguments.length ∧ e = ⟨type, .function f arguments⟩ := by
  rw [Expr.mkFunction, bind_eq_ok_iff]
  constructor
  · rintro ⟨returned, hr, h⟩
    obtain ⟨⟨⟩, same, h⟩ := bind_eq_ok_iff.mp h
    obtain ⟨⟨⟩, count, h⟩ := bind_eq_ok_iff.mp h
    exact ⟨returned, FunctionDecl.returnType_eq_ok_iff.mp hr, requireSameUse_eq_ok_iff.mp same,
      requireCount_eq_ok_iff.mp count, pure_eq_ok_iff.mp h⟩
  · rintro ⟨returned, hr, same, count, rfl⟩
    refine ⟨returned, FunctionDecl.returnType_eq_ok_iff.mpr hr, ?_⟩
    rw [requireSameUse_eq_ok_iff.mpr same, requireCount_eq_ok_iff.mpr count]
    rfl

theorem Lambda.make_eq_ok_iff {formals : List Variable} {body : Expr} {l : Lambda} :
    Lambda.make formals body = .ok l ↔ (formals.map (·.name)).Nodup ∧ l = ⟨formals, body⟩ := by
  rw [← firstRepeated?_eq_none_iff]
  unfold Lambda.make
  cases firstRepeated? (formals.map (·.name)) with
  | none =>
    simp only [Except.ok.injEq, true_and]
    exact eq_comm
  | some name => simp

theorem Expr.mkInvocation_eq_ok_iff {l : Lambda} {arguments : List Expr} :
    Expr.mkInvocation type l arguments = .ok e ↔
      type.handle = l.body.type.handle ∧ l.formals.length = arguments.length ∧
        e = ⟨type, .lambda l arguments⟩ := by
  rw [Expr.mkInvocation, requireSameUse, requireCount, require_bind_eq_ok_iff, require_bind_eq_ok_iff,
    pure_eq_ok_iff, beq_iff_eq, beq_iff_eq]

/-- Only a collection may be made of no elements. -/
theorem Expr.requireElements_eq_ok_iff {elements : List Expr} :
    Expr.requireElements rules type elements = .ok () ↔
      elements ≠ [] ∨ rules.isCollection type.shape = true := by
  rw [Expr.requireElements, require_eq_ok_iff, Bool.or_eq_true, Bool.not_eq_true', ← Bool.not_eq_true,
    List.isEmpty_iff]

theorem Expr.mkNewInstance_eq_ok_iff {elements : List Expr} :
    Expr.mkNewInstance rules type elements = .ok e ↔
      (elements ≠ [] ∨ rules.isCollection type.shape = true) ∧ e = ⟨type, .newInstance elements []⟩ := by
  rw [← Expr.requireElements_eq_ok_iff, Expr.mkNewInstance, Expr.requireElements, require_bind_eq_ok_iff,
    require_eq_ok_iff, pure_eq_ok_iff]

theorem Expr.mkEntityInstance_eq_ok_iff {elements : List Expr} {related : List Related} :
    Expr.mkEntityInstance rules type elements related = .ok e ↔
      rules.isEntity type.shape = true ∧
        (elements ≠ [] ∨ rules.isCollection type.shape = true) ∧
        e = ⟨type, .newInstance elements related⟩ := by
  rw [← Expr.requireElements_eq_ok_iff, Expr.mkEntityInstance, Expr.requireElements,
    require_bind_eq_ok_iff, require_bind_eq_ok_iff, require_eq_ok_iff, pure_eq_ok_iff]

theorem Related.make_eq_ok_iff {alive : Handle → Bool} {source target : RelationshipEnd} {reference : Expr}
    {r : Related} :
    Related.make rules alive source target reference = .ok r ↔
      source.sameRelationship target = true ∧ source.sameEnd target = false ∧ target.isAtMostOne = true ∧
        (∃ found, rules.referenceTarget? reference.type.shape = some found ∧
          target.accepts rules found = true) ∧
        r = ⟨source, target, reference⟩ := by
  rw [Related.make, require_bind_eq_ok_iff, require_bind_eq_ok_iff, require_bind_eq_ok_iff,
    Bool.not_eq_true']
  cases rules.referenceTarget? reference.type.shape with
  | none => simp
  | some found =>
    rw [require_bind_eq_ok_iff, pure_eq_ok_iff]
    simp

/-! ## Conditions -/

variable {h : Handle}

theorem Expr.mkComparison_eq_ok_iff {operator : Comparison} {left right : Expr} :
    Expr.mkComparison rules h operator left right = .ok e ↔
      Expr.comparable rules operator left.type.shape right.type.shape = true ∧
        Expr.eitherPromotes rules left.type.shape right.type.shape = true ∧
        e = ⟨Expr.booleanAt h, .comparison operator left right⟩ := by
  rw [Expr.mkComparison, require_bind_eq_ok_iff, pure_eq_ok_iff, Bool.and_eq_true, and_assoc]

theorem Expr.mkAnd_eq_ok_iff {left right : Expr} :
    Expr.mkAnd rules h left right = .ok e ↔
      rules.isBoolean left.type.shape = true ∧ rules.isBoolean right.type.shape = true ∧
        e = ⟨Expr.booleanAt h, .and left right⟩ := by
  rw [Expr.mkAnd, Expr.requireBoolean, Expr.requireBoolean, require_bind_eq_ok_iff,
    require_bind_eq_ok_iff, pure_eq_ok_iff]

theorem Expr.mkOr_eq_ok_iff {left right : Expr} :
    Expr.mkOr rules h left right = .ok e ↔
      rules.isBoolean left.type.shape = true ∧ rules.isBoolean right.type.shape = true ∧
        e = ⟨Expr.booleanAt h, .or left right⟩ := by
  rw [Expr.mkOr, Expr.requireBoolean, Expr.requireBoolean, require_bind_eq_ok_iff,
    require_bind_eq_ok_iff, pure_eq_ok_iff]

theorem Expr.mkNot_eq_ok_iff {argument : Expr} :
    Expr.mkNot rules h argument = .ok e ↔
      rules.isBoolean argument.type.shape = true ∧ e = ⟨Expr.booleanAt h, .not argument⟩ := by
  rw [Expr.mkNot, Expr.requireBoolean, require_bind_eq_ok_iff, pure_eq_ok_iff]

theorem Expr.mkIsNull_eq_ok_iff {argument : Expr} :
    Expr.mkIsNull rules h argument = .ok e ↔
      rules.isCollection argument.type.shape = false ∧ e = ⟨Expr.booleanAt h, .isNull argument⟩ := by
  rw [Expr.mkIsNull, require_bind_eq_ok_iff, pure_eq_ok_iff, Bool.not_eq_true']

/-! ## Sets -/

theorem Binding.make_eq_ok_iff {source : Expr} {name : String} {b : Binding} :
    Binding.make rules source name = .ok b ↔
      ∃ t, rules.element? source.type.shape = some t ∧ name ≠ "" ∧ b = ⟨source, ⟨name, t⟩⟩ := by
  unfold Binding.make
  cases rules.element? source.type.shape with
  | none => simp
  | some t =>
    simp only [bind_eq_ok_iff, Variable.make_eq_ok_iff, pure_eq_ok_iff, Option.some.injEq]
    constructor
    · rintro ⟨v, ⟨named, rfl⟩, rfl⟩
      exact ⟨t, rfl, named, rfl⟩
    · rintro ⟨_, rfl, named, rfl⟩
      exact ⟨_, ⟨named, rfl⟩, rfl⟩

theorem Expr.mkFilter_eq_ok_iff {input : Binding} {predicate : Expr} :
    Expr.mkFilter rules input predicate = .ok e ↔
      rules.isBoolean predicate.type.shape = true ∧ e = ⟨input.source.type, .filter input predicate⟩ := by
  rw [Expr.mkFilter, Expr.requireBoolean, require_bind_eq_ok_iff, pure_eq_ok_iff]

end Nodes
end EntityQuery
