import EntityQuery.Expr.Basic
/-!
# `Expr.Outline` — expressions as indented text

An outline shows one line for each node, `Kind(detail) : type`, and below it the lines of its children, two
blanks deeper. The related entities of an instance come after all its elements, each as a line of its own
with the reference below it.

The printer carries its depth as a state: it goes one level deeper around what is below a line and comes
back, so that it can be used again at the level it started from.

## Contents
* `Node.detail?`, `outlineHead`, `Related.outlineHead` — the text of one line.
* `Printer`, `indented` — printing at a depth.
* `Expr.print`, `Expr.outline` — the outline, at any depth and from the margin.
-/

namespace EntityQuery

/-! ## One line -/

namespace Node

variable {ε : Type}

/-- What a node's line says beside its kind: the text of a constant, the names of what is referred to. -/
def detail? : Node ε → Option String
  | constant value => some value.text
  | variableReference name => some name
  | parameterReference name => some ("@" ++ name)
  | property member _ => some member.name
  | function f _ => some f.fullName
  | lambda l _ => some (", ".intercalate (l.formals.map (·.name)))
  | navigation r fromEnd toEnd _ => some (r.fullName ++ ": " ++ fromEnd.name ++ " -> " ++ toEnd.name)
  | ref set _ => some set.name
  | scan extent => some (extent.container ++ "." ++ extent.name)
  | filter input _ => some input.element.name
  | project input _ => some input.element.name
  | null | newInstance _ _ | deref _ | comparison _ _ _ | and _ _ | or _ _ | not _ | isNull _ => none

end Node

/-- The blanks before a line at a depth: two for each level. -/
def indentation (depth : Nat) : String := String.ofList (List.replicate (2 * depth) ' ')

/-- The line of a node of a type. -/
def outlineHead {ε : Type} (depth : Nat) (type : TypeUse) (node : Node ε) : String :=
  match node.detail? with
  | some detail => indentation depth ++ node.kind.name ++ "(" ++ detail ++ ") : " ++ type.text
  | none => indentation depth ++ node.kind.name ++ " : " ++ type.text

/-- The line of a related entity. -/
def relatedHead (depth : Nat) (source target : RelationshipEnd) : String :=
  indentation depth ++ "RelatedEntityRef(" ++ source.name ++ " -> " ++ target.name ++ ")"

/-! ## Printing at a depth -/

/-- A computation that knows how deep it prints. -/
abbrev Printer := StateM Nat

/-- Prints one level deeper and comes back. -/
def indented {α : Type} (p : Printer α) : Printer α := do
  modify (· + 1)
  let printed ← p
  modify (· - 1)
  return printed

/-- Prints a few blocks at the same depth. -/
def inTurn : List (Printer String) → Printer (List String)
  | [] => return []
  | p :: ps => do
    let first ← p
    return first :: (← inTurn ps)

/-- Blocks of lines below one another. -/
def stacked (blocks : List String) : String := "\n".intercalate blocks

/-! ## Outlines -/

mutual

/-- Prints the outline of an expression. -/
def Expr.print : Expr → Printer String
  | ⟨type, node⟩ => do
    let head := outlineHead (← get) type node
    let below ← node.printBelow
    return stacked (head :: below)
termination_by structural e => e

/-- Prints what stands below a node's line. -/
def Node.printBelow : Node Expr → Printer (List String)
  | .constant _ => return []
  | .null => return []
  | .variableReference _ => return []
  | .parameterReference _ => return []
  | .property _ object => indented (inTurn [object.print])
  | .function _ arguments => indented (printAll arguments)
  | .lambda ⟨_, body⟩ arguments => indented do
      let printed ← printAll arguments
      return printed ++ [← body.print]
  | .navigation _ _ _ source => indented (inTurn [source.print])
  -- the line of a related entity stands at the depth of the elements, and finds its own way there
  | .newInstance elements related => do
      let printed ← indented (printAll elements)
      return printed ++ (← printRelated related)
  | .ref _ keys => indented (inTurn [keys.print])
  | .deref reference => indented (inTurn [reference.print])
  | .scan _ => return []
  | .comparison _ left right => indented (inTurn [left.print, right.print])
  | .and left right => indented (inTurn [left.print, right.print])
  | .or left right => indented (inTurn [left.print, right.print])
  | .not argument => indented (inTurn [argument.print])
  | .isNull argument => indented (inTurn [argument.print])
  | .filter ⟨source, _⟩ predicate => indented (inTurn [source.print, predicate.print])
  | .project ⟨source, _⟩ projection => indented (inTurn [source.print, projection.print])
termination_by structural n => n

/-- Prints several expressions at the same depth. -/
def printAll : List Expr → Printer (List String)
  | [] => return []
  | e :: es => do
    let first ← e.print
    return first :: (← printAll es)
termination_by structural es => es

/-- Prints several related entities: the line of each one level deeper, its reference two. -/
def printRelated : List (RelatedOf Expr) → Printer (List String)
  | [] => return []
  | ⟨source, target, reference⟩ :: rs => do
    let first ← indented do
      let head := relatedHead (← get) source target
      let below ← indented reference.print
      return stacked [head, below]
    return first :: (← printRelated rs)
termination_by structural rs => rs

end

/-- The outline of an expression, from the margin. -/
def Expr.outline (e : Expr) : String := (e.print.run 0).1

end EntityQuery
