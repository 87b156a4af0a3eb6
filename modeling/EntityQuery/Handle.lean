/-!
# `Handle` — identity without an allocator

Two uses of one type can be told apart, and so can two relationships of one name. A **handle** is what
tells them apart: the place where the thing was made. A place is the `site` of the operation that made it
together with a `path` inside that operation, so operations at different sites never make equal handles
and no supply of fresh names has to be threaded through anything.

## Contents
* `Handle`, `Handle.root`, `Handle.child` — a place, the place of a whole operation, a place inside a place.
-/

namespace EntityQuery

/-- The identity of a type use or of a relationship: the site of the operation that made it, and the path
    inside that operation, innermost position first. -/
structure Handle where
  site : Nat
  path : List Nat
deriving DecidableEq

namespace Handle

/-- The place of the whole operation at `site`. -/
def root (site : Nat) : Handle := ⟨site, []⟩

/-- The `i`-th place inside `h`. -/
def child (h : Handle) (i : Nat) : Handle := ⟨h.site, i :: h.path⟩

@[simp] theorem root_site (n : Nat) : (root n).site = n := rfl

end Handle
end EntityQuery
