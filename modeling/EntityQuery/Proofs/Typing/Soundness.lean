import EntityQuery.Proofs.Session.Construction
import EntityQuery.Proofs.Typing.Judgment
/-!
# `Proofs.Typing.Soundness` — the builder makes typed expressions only

What a run of the builder holds has typed nodes only, and so has what it makes next. The run may declare
any model data, take expressions apart again and assemble commands between the calls; only nodes under an
explicit type are left out, for these are given their types and do not earn them.

## Contents
* `Value.WellTyped` — a value of typed nodes, well formed itself.
* `Session.wellTyped_of_run` — type soundness of whole runs.
-/

namespace EntityQuery

/-- A lambda, a binding or a related entity is well formed; other values are anyway. -/
def Value.WellFormed : Value → Prop
  | lambda l => LambdaOf.WellFormed l
  | binding b => BindingOf.WellFormed b
  | related r => RelatedOf.WellFormed r
  | _ => True

/-- **A well-typed value.** All its nodes are typed, and it is well formed itself. -/
structure Value.WellTyped (v : Value) : Prop where
  nodes : ∀ n ∈ v.nodes, n.Typed
  wellFormed : v.WellFormed

/-- Under the standard rules, what the builder made is well formed. -/
theorem Value.Founded.wellFormed {v : Value} (founded : v.Founded .standard) : v.WellFormed := by
  cases v with
  | lambda l => exact LambdaOf.Built.wellFormed founded
  | binding b => exact BindingOf.Built.wellFormed founded
  | related r => exact RelatedOf.Built.wellFormed founded
  | _ => trivial

/-- A sound value of typed nodes is well typed. -/
theorem Value.Sound.wellTyped {v : Value} (sound : v.Sound .standard Expr.Typed) : v.WellTyped :=
  ⟨sound.nodes, sound.founded.wellFormed⟩

namespace Session

/-- All that a run of the builder holds is of typed nodes. -/
theorem sound_typed_run {steps : List Step} (built : ∀ t ∈ steps, t.isExplicit = false) :
    ∀ v, (empty.run .standard steps).Has v → v.Sound .standard Expr.Typed := by
  refine @sound_run .standard Expr.Typed false (fun e he => he.typed) (fun explicit => ?_) steps ?_
  · exact absurd explicit Bool.false_ne_true
  · intro t ht explicit
    rw [built t ht] at explicit
    exact explicit

/-- **Type soundness.** After any run of the builder under the standard rules, every value held is well typed,
    and so is every value that a further call makes, held or not: each node has the type that its children
    and its model data give it. -/
theorem wellTyped_of_run {steps : List Step} (built : ∀ t ∈ steps, t.isExplicit = false) :
    (∀ v, (empty.run .standard steps).Has v → v.WellTyped) ∧
      ∀ (request : Request) (v : Value), request.isExplicit = false →
        (empty.run .standard steps).perform .standard request = .ok v → v.WellTyped := by
  have held := sound_typed_run built
  refine ⟨fun v hv => (held v hv).wellTyped, ?_⟩
  intro request v ok made
  -- one more call is one more step of the same kind
  have sound : v.Sound .standard Expr.Typed := by
    refine @sound_of_perform .standard Expr.Typed _ false (fun e he => he.typed) ?_ held request ?_ v made
    · exact fun explicit => absurd explicit Bool.false_ne_true
    · intro explicit
      rw [ok] at explicit
      exact explicit
  exact sound.wellTyped

/-- Persons with an address, those filtered who are old and live at a given place. -/
def oldNeighbours : List Step := [
  .make (some "Person") (.model (.entity ⟨"Town", "Person"⟩ none
    [⟨⟨"Id", .primitive .int32⟩, true⟩, ⟨⟨"Old", .primitive .boolean⟩, false⟩,
      ⟨⟨"Place", .row [⟨"Street", .primitive .string⟩]⟩, false⟩])),
  .make (some "People") (.model (.entitySet "Town" "People" "Person")),
  .make (some "all") (.build (.scan "People")),
  .make (some "each") (.build (.bind "all" "p")),
  .make (some "p") (.build (.elementOf "each")),
  .make (some "old") (.build (.property "p" "Old")),
  .make (some "place") (.build (.property "p" "Place")),
  .make (some "street") (.build (.property "place" "Street")),
  .make (some "given") (.build (.parameterReference "street" (.primitive .string))),
  .make (some "there") (.build (.compare .equals "street" "given")),
  .make (some "both") (.build (.and "old" "there")),
  .make (some "neighbours") (.build (.filter "each" "both"))]

theorem wellTyped_oldNeighbours :
    (∀ t ∈ oldNeighbours, t.isExplicit = false) ∧
    ∃ e, (empty.run .standard oldNeighbours).find? "neighbours" = some (.expression e) ∧
      e.histogram.total = 10 ∧ (Value.expression e).WellTyped := by
  have built : ∀ t ∈ oldNeighbours, t.isExplicit = false := by decide
  exact ⟨built, _, rfl, rfl, (wellTyped_of_run built).1 _ ⟨"neighbours", rfl⟩⟩

end Session
end EntityQuery
