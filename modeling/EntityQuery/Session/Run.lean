import EntityQuery.Session.Request
/-!
# `Session.Run` — sessions step by step

A step makes a value and perhaps holds it under a name, or lets names go. A step that makes no value leaves
what is held as it was, and the run goes on. Every step has a site of its own, so identities made by
different steps differ.

## Contents
* `Step`, `Session.step`, `Session.run`.
* `site_step` — each step takes one site.
-/

namespace EntityQuery

/-- One step of a session. -/
inductive Step where
  /-- Makes a value and holds it under the name, if one is given. -/
  | make (name : Option String) (request : Request)
  /-- Lets names go. -/
  | drop (names : List String)

namespace Session

/-- Holds a value under a name, if one is given. -/
def holdAs (s : Session) (name : Option String) (value : Value) : Session :=
  match name with
  | some name => s.hold name value
  | none => s

/-- The session at its next site. -/
def advance (s : Session) : Session := { s with site := s.site + 1 }

/-- The session after a step. -/
def step (rules : TypeRules) (s : Session) : Step → Session
  | .make name request =>
    match s.perform rules request with
    | .ok value => (s.holdAs name value).advance
    -- a site is never used again, also when nothing came of it
    | .error _ => s.advance
  | .drop names => (s.drop names).advance

/-- The session after several steps. -/
def run (rules : TypeRules) (s : Session) (steps : List Step) : Session := steps.foldl (step rules) s

@[simp] theorem run_nil (rules : TypeRules) (s : Session) : s.run rules [] = s := rfl

@[simp] theorem run_cons (rules : TypeRules) (s : Session) (t : Step) (ts : List Step) :
    s.run rules (t :: ts) = (s.step rules t).run rules ts := rfl

/-- Every step moves to the next site. -/
theorem site_step (rules : TypeRules) (s : Session) (t : Step) : (s.step rules t).site = s.site + 1 := by
  cases t with
  | make name request =>
    simp only [step]
    split
    · cases name <;> rfl
    · rfl
  | drop names => rfl

end Session
end EntityQuery
