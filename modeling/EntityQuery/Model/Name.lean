/-!
# `Model.Name` — qualified names

Everything a model declares by name lives in a namespace. Its **full name** is the text of both joined by
a point, and it is this text, not the pair, by which two declarations are taken for the same one: the
namespace `A.B` with the name `C` and the namespace `A` with the name `B.C` are one name.
-/

namespace EntityQuery

/-- The namespace and the simple name of a declaration. -/
structure QualifiedName where
  space : String
  simple : String
deriving DecidableEq

namespace QualifiedName

/-- The full name: namespace, point, simple name. -/
def text (n : QualifiedName) : String := n.space ++ "." ++ n.simple

/-- Whether two names have the same full name. -/
def same (m n : QualifiedName) : Bool := m.text == n.text

theorem same_iff {m n : QualifiedName} : m.same n = true ↔ m.text = n.text := by simp [same]

@[simp] theorem same_self (n : QualifiedName) : n.same n = true := by simp [same]

end QualifiedName
end EntityQuery
