import EntityQuery.Session.Ownership
import EntityQuery.Session.Run
/-!
# `Session.Action` — all that can be done with held values

A step makes a value or lets names go. Whoever holds values can do three things more: hold a value under one
more name, take out one of the values that it is made of, and ask an end for its relationship. The last is
the one way to get at something along an edge that does not hold, and it works only while something else
holds the relationship.

## Contents
* `Action`, `Session.act`, `Session.play`.
* `play_map_step` — steps alone are played as they are run.
-/

namespace EntityQuery

/-- One thing done with what is held. -/
inductive Action where
  /-- Makes a value, or lets names go. -/
  | step (step : Step)
  /-- Holds the value of a name under another name as well. -/
  | copy (source name : String)
  /-- Holds one of the values that the value of a name is made of. -/
  | take (source : String) (place : Nat) (name : String)
  /-- Holds the relationship of an end, while there is one. -/
  | declaring (relEnd name : String)

/-- The relationship of an end as a value, when it is still alive. -/
def Value.declaring? (alive : Handle → Bool) : Value → Option Value
  | .relationshipEnd e => (e.declaring? alive).map .relationship
  | _ => none

namespace Session

/-- Holds under a name what was found, if anything was. -/
def holdFound (s : Session) (name : String) (found : Option Value) : Session :=
  match found with
  | some value => s.hold name value
  | none => s

/-- The session after one action. -/
def act (rules : TypeRules) (s : Session) : Action → Session
  | .step t => s.step rules t
  | .copy source name => (s.holdFound name (s.find? source)).advance
  | .take source place name => (s.holdFound name ((s.find? source).bind (·.owned[place]?))).advance
  | .declaring relEnd name => (s.holdFound name ((s.find? relEnd).bind (·.declaring? s.alive))).advance

/-- The session after several actions. -/
def play (rules : TypeRules) (s : Session) (actions : List Action) : Session := actions.foldl (act rules) s

/-- Steps alone are played as they are run. -/
theorem play_map_step (rules : TypeRules) (s : Session) (steps : List Step) :
    s.play rules (steps.map .step) = s.run rules steps := by
  rw [play, run, List.foldl_map]
  rfl

/-- Every action moves to the next site. -/
theorem site_act (rules : TypeRules) (s : Session) (a : Action) : (s.act rules a).site = s.site + 1 := by
  have found (name : String) (value : Option Value) : (s.holdFound name value).site = s.site := by
    cases value <;> rfl
  cases a with
  | step t => exact site_step rules s t
  | copy source name => exact congrArg (· + 1) (found name _)
  | take source place name => exact congrArg (· + 1) (found name _)
  | declaring relEnd name => exact congrArg (· + 1) (found name _)

/-- Holding what was found adds what that reaches. -/
theorem owns_of_owns_holdFound {s : Session} {name : String} {found : Option Value} {w : Value}
    (owns : (s.holdFound name found).Owns w) : (∃ v, found = some v ∧ v.Reaches w) ∨ s.Owns w := by
  cases found with
  | none => exact .inr owns
  | some v =>
    rcases owns_of_owns_hold owns with reached | owns
    · exact .inl ⟨v, rfl, reached⟩
    · exact .inr owns

end Session
end EntityQuery
