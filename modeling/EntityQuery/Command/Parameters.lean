import EntityQuery.Expr.ParameterName
import EntityQuery.Model.Declaration
import EntityQuery.Model.TypeRules
/-!
# `Command.Parameters` — the parameters of a command

A command lists each parameter it refers to once, in the order of first reference, with the type use of
that first reference. Every further reference to the name must be of the same type.

## Contents
* `Parameters`, `find?`, `declare`, `declareAll`.
* `declare_eq_ok_of_find?_eq_none`, `declare_eq_ok_of_find?_eq_some` — a first and a further reference.
-/

namespace EntityQuery

/-- Parameters in the order of their declaration, at most one of each name. -/
abbrev Parameters := List Parameter

namespace Parameters

/-- The parameter of a name. -/
def find? (ps : Parameters) (name : String) : Option Parameter := List.find? (·.name == name) ps

/-- Declares a parameter: appends it when its name is new, and otherwise only checks that it is of the type
    the name was declared with. -/
def declare (rules : TypeRules) (ps : Parameters) (p : Parameter) : Except Rejection Parameters := do
  require (isParameterName p.name) (.invalidParameterName p.name)
  match ps.find? p.name with
  | none => return ps ++ [p]
  | some first =>
    -- the type of the first reference stays, even when a later one is another use of it
    require (rules.equals first.type.shape p.type.shape)
      (.parameterTypeConflict first.name first.type.text p.type.text)
    return ps

/-- Declares parameters in turn. -/
def declareAll (rules : TypeRules) (ps : Parameters) : List Parameter → Except Rejection Parameters
  | [] => .ok ps
  | p :: rest => do
    let ps ← declare rules ps p
    declareAll rules ps rest

/-- **A first reference** appends its parameter. -/
theorem declare_eq_ok_of_find?_eq_none {rules : TypeRules} {ps : Parameters} {p : Parameter}
    (name : isParameterName p.name = true) (fresh : ps.find? p.name = none) :
    declare rules ps p = .ok (ps ++ [p]) := by
  simp [declare, name, fresh, bind, Except.bind, pure, Except.pure]

/-- **A further reference** of the same type changes nothing. -/
theorem declare_eq_ok_of_find?_eq_some {rules : TypeRules} {ps : Parameters} {p first : Parameter}
    (name : isParameterName p.name = true) (known : ps.find? p.name = some first)
    (same : rules.equals first.type.shape p.type.shape = true) : declare rules ps p = .ok ps := by
  simp [declare, name, known, same, bind, Except.bind, pure, Except.pure]

end Parameters
end EntityQuery
