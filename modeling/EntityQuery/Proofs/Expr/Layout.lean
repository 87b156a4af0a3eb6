import EntityQuery.Expr.Preorder
/-!
# `Proofs.Expr.Layout` — the printer prints the layout

The printer carries its depth along and joins lines block by block; the layout of an expression is a list of
lines, read off its children. From any depth the printer prints the lines of the layout at that depth, each
once and in order, and comes back to the depth it started from.

## Contents
* `stacked_cons_map_stacked` — joining blocks of lines is joining all their lines.
* `run_bind`, `run_indented`, `run_inTurn`, `run_printRelated` — printers at a depth.
* `Expr.run_print`, `Expr.outline_eq` — the outline is the layout.
-/

namespace EntityQuery

/-! ## Blocks of lines -/

theorem stacked_cons {head : String} {lines : List String} (h : lines ≠ []) :
    stacked (head :: lines) = head ++ "\n" ++ stacked lines :=
  String.intercalate_cons_of_ne_nil h

/-- A block before other lines is its lines before the others. -/
theorem stacked_stacked_cons {block : List String} (h : block ≠ []) (lines : List String) :
    stacked (stacked block :: lines) = stacked (block ++ lines) := by
  by_cases last : lines = []
  · rw [last, List.append_nil]
    exact String.intercalate_singleton
  · rw [stacked_cons last]
    exact (String.intercalate_append_of_ne_nil h last).symm

/-- **Blocks flatten.** Lines joined block by block below a first line are the lines joined at once. -/
theorem stacked_cons_map_stacked (head : String) {blocks : List (List String)} (h : ∀ b ∈ blocks, b ≠ []) :
    stacked (head :: blocks.map stacked) = stacked (head :: blocks.flatten) := by
  induction blocks generalizing head with
  | nil => rfl
  | cons b bs ih =>
    have nonempty : b ≠ [] := h b List.mem_cons_self
    have below : b ++ bs.flatten ≠ [] := List.append_ne_nil_of_left_ne_nil nonempty _
    rw [List.map_cons, List.flatten_cons, stacked_cons (List.cons_ne_nil _ _), stacked_cons below,
      ih (stacked b) fun c hc => h c (List.mem_cons_of_mem _ hc), stacked_stacked_cons nonempty]

/-! ## Printers at a depth -/

section Printers

variable {α β : Type} {depth : Nat}

/-- What comes after a printer goes on with what it printed, from the depth it left. -/
theorem run_bind {p : Printer α} {next : α → Printer β} {printed : α} {d : Nat}
    (h : p.run depth = (printed, d)) : (p >>= next).run depth = (next printed).run d := by
  rw [StateT.run_bind, h]
  rfl

/-- What is printed one level deeper leaves the depth as it was. -/
theorem run_indented {p : Printer α} {printed : α} (h : p.run (depth + 1) = (printed, depth + 1)) :
    (indented p).run depth = (printed, depth) := by
  have deeper : (modify (· + 1) : Printer PUnit).run depth = (⟨⟩, depth + 1) := rfl
  rw [indented, run_bind deeper, run_bind h]
  rfl

/-- Blocks printed in turn are the blocks printed each at the depth. -/
theorem run_inTurn {es : List Expr} {block : Expr → String}
    (h : ∀ e ∈ es, e.print.run depth = (block e, depth)) :
    (inTurn (es.map Expr.print)).run depth = (es.map block, depth) := by
  induction es with
  | nil => rfl
  | cons e es ih =>
    have rest := ih fun c hc => h c (List.mem_cons_of_mem _ hc)
    rw [List.map_cons, inTurn, run_bind (h e List.mem_cons_self), run_bind rest]
    rfl

/-- Printing several expressions is printing them in turn. -/
theorem printAll_eq_inTurn (es : List Expr) : printAll es = inTurn (es.map Expr.print) := by
  induction es with
  | nil => rfl
  | cons e es ih => rw [printAll, ih]; rfl

/-- A related entity is printed as its line with its reference below. -/
theorem run_relatedLine {source target : RelationshipEnd} {reference : Printer String} {below : String}
    (h : reference.run (depth + 1) = (below, depth + 1)) :
    (do let head := relatedHead (← get) source target
        return stacked [head, ← indented reference] : Printer String).run depth =
      (stacked [relatedHead depth source target, below], depth) := by
  have here : (get : Printer Nat).run depth = (depth, depth) := rfl
  rw [run_bind here, run_bind (run_indented h)]
  rfl

/-- Related entities are printed one after the other. -/
theorem run_printRelated {rs : List Related} {block : Related → String}
    (h : ∀ r ∈ rs, r.reference.print.run (depth + 2) = (block r, depth + 2)) :
    (printRelated rs).run depth =
      (rs.map fun r => stacked [relatedHead (depth + 1) r.source r.target, block r], depth) := by
  induction rs with
  | nil => rfl
  | cons r rs ih =>
    obtain ⟨source, target, reference⟩ := r
    have rest := ih fun c hc => h c (List.mem_cons_of_mem _ hc)
    have line := @run_relatedLine _ source target _ _ (h _ List.mem_cons_self)
    rw [printRelated, run_bind (run_indented line), run_bind rest]
    rfl

end Printers

/-- Printing one block more after others. -/
theorem inTurn_concat (ps : List (Printer String)) (p : Printer String) :
    inTurn (ps ++ [p]) = (do let printed ← inTurn ps; return printed ++ [← p]) := by
  induction ps with
  | nil => rfl
  | cons q ps ih => rw [List.cons_append, inTurn, ih]; rfl

/-! ## Outlines -/

/-- What stands below a node's line: its direct children one level deeper, then its related entities. -/
theorem Node.run_printBelow {n : Node Expr} {depth : Nat} {direct related : List String}
    (h : (inTurn (n.direct.map Expr.print)).run (depth + 1) = (direct, depth + 1))
    (k : (printRelated n.related).run depth = (related, depth)) :
    n.printBelow.run depth = (direct ++ related, depth) := by
  have below := run_indented h
  cases n with
  | newInstance elements joined =>
    -- the elements come first, and the related entities start from where they end
    have elementsFirst : (indented (printAll elements)).run depth = (direct, depth) := by
      rw [printAll_eq_inTurn]
      exact below
    have relatedNext : (printRelated joined).run depth = (related, depth) := k
    rw [Node.printBelow, run_bind elementsFirst, run_bind relatedNext]
    rfl
  | constant _ | null | variableReference _ | parameterReference _ | scan _ =>
    obtain rfl : [] = direct := congrArg Prod.fst h
    obtain rfl : [] = related := congrArg Prod.fst k
    rfl
  | function _ arguments =>
    obtain rfl : [] = related := congrArg Prod.fst k
    rw [List.append_nil, ← below, Node.printBelow, printAll_eq_inTurn]
    rfl
  | lambda l arguments =>
    obtain rfl : [] = related := congrArg Prod.fst k
    obtain ⟨formals, body⟩ := l
    rw [List.append_nil, ← below, Node.printBelow, printAll_eq_inTurn]
    show _ = (indented (inTurn ((arguments ++ [body]).map Expr.print))).run depth
    rw [List.map_append, List.map_singleton, inTurn_concat]
  | _ =>
    obtain rfl : [] = related := congrArg Prod.fst k
    rw [List.append_nil]
    exact below

theorem Expr.layout_ne_nil (depth : Nat) (e : Expr) : e.layout depth ≠ [] := by
  rw [layout_eq]
  exact List.cons_ne_nil _ _

/-- The lines of a node and of all that is below it, joined block by block or at once. -/
theorem stacked_outline (head : String) (depth : Nat) (direct : List Expr) (related : List Related) :
    stacked (head :: ((direct.map fun c => stacked (c.layout (depth + 1))) ++
      related.map fun r =>
        stacked [relatedHead (depth + 1) r.source r.target, stacked (r.reference.layout (depth + 2))])) =
    stacked (head :: (direct.flatMap (Expr.layout (depth + 1)) ++
      related.flatMap fun r =>
        relatedHead (depth + 1) r.source r.target :: r.reference.layout (depth + 2))) := by
  -- a related entity's line and what is below it are one block
  have pair (r : Related) : stacked [relatedHead (depth + 1) r.source r.target,
      stacked (r.reference.layout (depth + 2))] =
        stacked (relatedHead (depth + 1) r.source r.target :: r.reference.layout (depth + 2)) := by
    rw [stacked_cons (List.cons_ne_nil _ _), stacked_cons (Expr.layout_ne_nil _ _)]
    exact congrArg _ String.intercalate_singleton
  have blocks := @stacked_cons_map_stacked head
    (direct.map (Expr.layout (depth + 1)) ++
      related.map fun r => relatedHead (depth + 1) r.source r.target :: r.reference.layout (depth + 2)) ?_
  · rw [List.map_append, List.map_map, List.map_map, List.flatten_append] at blocks
    rw [List.flatMap_def, List.flatMap_def, ← blocks, funext pair]
    rfl
  · intro b hb
    rcases List.mem_append.mp hb with hb | hb
    · obtain ⟨c, _, rfl⟩ := List.mem_map.mp hb
      exact c.layout_ne_nil (depth + 1)
    · obtain ⟨r, _, rfl⟩ := List.mem_map.mp hb
      exact List.cons_ne_nil _ _

/-- **The printer prints the layout** at the depth it starts from, and comes back to that depth. -/
theorem Expr.run_print (e : Expr) (depth : Nat) :
    e.print.run depth = (stacked (e.layout depth), depth) := by
  induction e using Expr.inductionOnChildren generalizing depth with
  | step e ih =>
    have direct : (inTurn (e.node.direct.map Expr.print)).run (depth + 1) =
        (e.node.direct.map fun c => stacked (c.layout (depth + 1)), depth + 1) := by
      apply run_inTurn
      intro c hc
      exact ih c (mem_children_of_mem_direct hc) (depth + 1)
    have related : (printRelated e.node.related).run depth =
        (e.node.related.map fun r =>
          stacked [relatedHead (depth + 1) r.source r.target, stacked (r.reference.layout (depth + 2))],
          depth) := by
      apply run_printRelated
      intro r hr
      exact ih r.reference (mem_children_of_mem_related hr) (depth + 2)
    obtain ⟨type, node⟩ := e
    have here : (get : Printer Nat).run depth = (depth, depth) := rfl
    have below : node.printBelow.run depth = _ := Node.run_printBelow direct related
    rw [print, run_bind here, run_bind below, layout_eq, ← stacked_outline]
    rfl

/-- **The outline is the layout,** from the margin. -/
theorem Expr.outline_eq (e : Expr) : e.outline = stacked (e.layout 0) := congrArg Prod.fst (e.run_print 0)

end EntityQuery
