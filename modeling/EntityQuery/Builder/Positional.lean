import EntityQuery.Expr.Make
/-!
# `Builder.Positional` — operands against declared positions

Functions, lambdas, instances and references all take operands by position. The check is one for all of
them: first the number of operands, then each operand against the type declared at its place, from the
left, so the first operand that does not fit is the one reported.

## Contents
* `requireAssignable`, `requireEach`, `requirePositions`.
* `requireEach_eq_ok_iff`, `requirePositions_eq_ok_iff` — when the checks pass.
-/

namespace EntityQuery

/-- Enforces that an operand may stand where a type is expected. -/
def requireAssignable (rules : TypeRules) (blamed : Argument) (expected : TypeUse) (operand : Expr) :
    Except Rejection Unit :=
  require (rules.promotes operand.type.shape expected.shape)
    (.valueTypeMismatch blamed expected.text operand.type.text)

/-- Enforces that each operand may stand at its place, as far as both lists reach. -/
def requireEach (rules : TypeRules) (blamed : Argument) : List TypeUse → List Expr → Except Rejection Unit
  | expected :: types, operand :: operands => do
    requireAssignable rules blamed expected operand
    requireEach rules blamed types operands
  | _, _ => .ok ()

/-- Enforces that there are as many operands as places and that each may stand at its place. -/
def requirePositions (rules : TypeRules) (blamed : Argument) (types : List TypeUse) (operands : List Expr) :
    Except Rejection Unit := do
  requireCount blamed types.length operands.length
  requireEach rules blamed types operands

/-- **Place by place.** The check passes exactly when at every place that both lists have the operand may
    stand. -/
theorem requireEach_eq_ok_iff {rules : TypeRules} {blamed : Argument} {types : List TypeUse}
    {operands : List Expr} :
    requireEach rules blamed types operands = .ok () ↔
      ∀ p ∈ types.zip operands, rules.promotes p.2.type.shape p.1.shape = true := by
  induction types generalizing operands with
  | nil => simp [requireEach]
  | cons t ts ih =>
    cases operands with
    | nil => simp [requireEach]
    | cons e es =>
      -- the first place by its own rule, the others by induction
      simp only [requireEach, requireAssignable, require_bind_eq_ok_iff, ih, List.zip_cons_cons,
        List.mem_cons, forall_eq_or_imp]

/-- **Count and fit.** The positional check passes exactly when there is one operand for each place and
    every operand may stand at its place. -/
theorem requirePositions_eq_ok_iff {rules : TypeRules} {blamed : Argument} {types : List TypeUse}
    {operands : List Expr} :
    requirePositions rules blamed types operands = .ok () ↔
      types.length = operands.length ∧
        ∀ p ∈ types.zip operands, rules.promotes p.2.type.shape p.1.shape = true := by
  simp only [requirePositions, requireCount, require_bind_eq_ok_iff, beq_iff_eq, requireEach_eq_ok_iff]

end EntityQuery
