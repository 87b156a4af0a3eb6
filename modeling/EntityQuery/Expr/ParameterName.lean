/-!
# `Expr.ParameterName` — names of parameters

A parameter name starts with an ASCII letter and goes on with ASCII letters, digits and underscores.
-/

namespace EntityQuery

/-- Whether a character may stand inside a parameter name. -/
def isParameterNameChar (c : Char) : Bool := c.isAlphanum || c == '_'

/-- Whether a text may name a parameter. -/
def isParameterName (name : String) : Bool :=
  match name.toList with
  | [] => false
  | c :: cs => c.isAlpha && cs.all isParameterNameChar

end EntityQuery
