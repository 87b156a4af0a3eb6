import Mathlib.Algebra.BigOperators.Group.List.Basic
import EntityQuery.Builder.Basic
import EntityQuery.Proofs.Expr.Passes
import EntityQuery.Proofs.Expr.WrittenTexts
import EntityQuery.Proofs.Types.Equality
/-!
# `Proofs.Expr.Lines` — what the lines of an outline tell

An outline has one line for each node and one for each related entity, and one more for each newline in the names
and strings that are written in it. Without such newlines its lines are the entries, and each tells how deep it
stands and of what kind it is: expressions of one outline are nested alike, entry by entry. With them neither holds:
a string can be made to look like more nodes.

## Contents
* `relatedCount`, `writtenTexts`, `sum_entries` — counting entries and what is written in them.
* `length_linesOf_outline` — how many lines there are.
* `OutlineEntry.mark`, `mark_of_line` — what a line tells of its entry.
* `PlainlyWritten`, `lines_of_outline` — when there is a line for each entry, and what the lines tell then.
* `outline_of_imitated_node` — expressions of different size and one outline.
-/

namespace EntityQuery

/-! ## Counting entries -/

/-- What an entry weighs, when nodes and the ends of related entities are each weighed in their own way. -/
def OutlineEntry.weigh (node : Expr → Nat) (ends : RelationshipEnd → RelationshipEnd → Nat) : OutlineEntry → Nat
  | .node _ e => node e
  | .related _ source target => ends source target

namespace Expr

/-- How many related entities the nodes of an expression carry. -/
def relatedCount (e : Expr) : Nat := (e.preorder.map fun n => n.node.related.length).sum

/-- The names and strings that are written in an outline as they are: those of the nodes, of their types and of the
    ends of their related entities. -/
def writtenTexts (e : Expr) : List String :=
  e.preorder.flatMap fun n =>
    n.node.writtenTexts ++ n.type.shape.writtenTexts ++
      n.node.related.flatMap fun r => [r.source.name, r.target.name]

theorem sum_map_flatMap {α β : Type} (f : β → Nat) (g : α → List β) (xs : List α) :
    ((xs.flatMap g).map f).sum = (xs.map fun x => ((g x).map f).sum).sum := by
  rw [List.map_flatMap, List.flatMap_def, List.sum_flatten, List.map_map]
  rfl

/-- What the nodes of an expression weigh is what it weighs itself and what its children do. -/
theorem sum_preorder (f : Expr → Nat) (e : Expr) :
    (e.preorder.map f).sum = f e + (e.children.map fun c => (c.preorder.map f).sum).sum := by
  rw [preorder_eq, List.map_cons, List.sum_cons, sum_map_flatMap]

/-- What a node weighs with the related entities that it carries. -/
def weight (node : Expr → Nat) (ends : RelationshipEnd → RelationshipEnd → Nat) (e : Expr) : Nat :=
  node e + (e.node.related.map fun r => ends r.source r.target).sum

/-- **Entries by nodes.** The entries weigh what the nodes weigh, each with the related entities that it carries,
    whatever the depth. -/
theorem sum_entries (node : Expr → Nat) (ends : RelationshipEnd → RelationshipEnd → Nat) (e : Expr) (depth : Nat) :
    ((e.entries depth).map (OutlineEntry.weigh node ends)).sum = (e.preorder.map (weight node ends)).sum := by
  induction e using inductionOnChildren generalizing depth with
  | step e ih =>
    have direct : (e.node.direct.map fun c => ((c.entries (depth + 1)).map (OutlineEntry.weigh node ends)).sum) =
        e.node.direct.map fun c => (c.preorder.map (weight node ends)).sum := by
      apply List.map_congr_left
      intro c hc
      exact ih c (mem_children_of_mem_direct hc) (depth + 1)
    have related : (e.node.related.map fun r =>
          ((OutlineEntry.related (depth + 1) r.source r.target :: r.reference.entries (depth + 2)).map
            (OutlineEntry.weigh node ends)).sum) =
        e.node.related.map fun r => ends r.source r.target + (r.reference.preorder.map (weight node ends)).sum := by
      apply List.map_congr_left
      intro r hr
      rw [List.map_cons, List.sum_cons, ih r.reference (mem_children_of_mem_related hr)]
      rfl
    have below : (e.children.map fun c => (c.preorder.map (weight node ends)).sum).sum =
        (e.node.direct.map fun c => (c.preorder.map (weight node ends)).sum).sum +
          (e.node.related.map fun r => (r.reference.preorder.map (weight node ends)).sum).sum := by
      rw [children, Node.children_eq_direct_append, List.map_append, List.sum_append, List.map_map]
      rfl
    have here : (OutlineEntry.node depth e).weigh node ends = node e := rfl
    rw [entries_eq, sum_preorder, below, List.map_cons, List.sum_cons, List.map_append, List.sum_append,
      sum_map_flatMap, sum_map_flatMap, direct, related, List.sum_map_add, here, weight]
    omega

theorem sum_map_one {α : Type} (xs : List α) : (xs.map fun _ => 1).sum = xs.length := by
  rw [List.map_const', List.sum_replicate_nat, Nat.mul_one]

/-- There is an entry for each node and for each related entity. -/
theorem length_entries (e : Expr) (depth : Nat) :
    (e.entries depth).length = e.preorder.length + e.relatedCount := by
  have entry : OutlineEntry.weigh (fun _ => 1) (fun _ _ => 1) = fun _ => 1 := by
    funext x
    cases x <;> rfl
  have node : weight (fun _ => 1) (fun _ _ => 1) = fun n => 1 + n.node.related.length := by
    funext n
    rw [weight, sum_map_one]
  have counted := sum_entries (fun _ => 1) (fun _ _ => 1) e depth
  rw [entry, node, sum_map_one, List.sum_map_add, sum_map_one] at counted
  exact counted

/-- The newlines in the lines of all entries are those of the texts written in them. -/
theorem sum_newlines_entries (e : Expr) (depth : Nat) :
    ((e.entries depth).map fun x => newlines x.line).sum = (e.writtenTexts.map newlines).sum := by
  have entry : (fun x : OutlineEntry => newlines x.line) = OutlineEntry.weigh
      (fun n => ((n.node.writtenTexts ++ n.type.shape.writtenTexts).map newlines).sum)
      (fun source target => ([source.name, target.name].map newlines).sum) := by
    funext x
    rw [x.newlines_line]
    cases x <;> rfl
  rw [entry, sum_entries, writtenTexts, sum_map_flatMap]
  refine congrArg List.sum (List.map_congr_left fun n _ => ?_)
  rw [weight]
  simp only [List.map_append, List.sum_append, sum_map_flatMap]

/-! ## Lines -/

/-- The lines of an outline are those of its entries. -/
theorem linesOf_outline (e : Expr) : linesOf e.outline = (e.entries 0).flatMap fun x => linesOf x.line := by
  have some : (e.entries 0).map OutlineEntry.line ≠ [] := by
    rw [← layout_eq_map_line]
    exact e.layout_ne_nil 0
  rw [outline_eq, layout_eq_map_line, linesOf_stacked some, List.flatMap_map]

/-- **How many lines an outline has.** -/
theorem length_linesOf_outline (e : Expr) :
    (linesOf e.outline).length = e.preorder.length + e.relatedCount + (e.writtenTexts.map newlines).sum := by
  have each (x : OutlineEntry) : (linesOf x.line).length = 1 + newlines x.line := by
    rw [length_linesOf, Nat.add_comm]
  rw [linesOf_outline, List.length_flatMap, funext each, List.sum_map_add, sum_newlines_entries, sum_map_one,
    length_entries]

end Expr

/-! ## What a line tells -/

/-- There is one way to cut a list before its first element that fails a test. -/
theorem cut_eq_cut {α : Type} {p : α → Bool} {front front' : List α} {a a' : α} {back back' : List α}
    (inside : ∀ c ∈ front, p c = true) (inside' : ∀ c ∈ front', p c = true) (stop : p a = false) (stop' : p a' = false)
    (same : front ++ a :: back = front' ++ a' :: back') : front = front' ∧ a :: back = a' :: back' := by
  have fronts : front = front' := by
    have taken := congrArg (List.takeWhile p) same
    rwa [List.takeWhile_append_of_pos inside, List.takeWhile_append_of_pos inside',
      List.takeWhile_cons_of_neg (by simp [stop]), List.takeWhile_cons_of_neg (by simp [stop']),
      List.append_nil, List.append_nil] at taken
  subst fronts
  exact ⟨rfl, List.append_cancel_left same⟩

/-- The word that lines begin with: of nodes, the name of their kind. -/
def headword : Option Kind → String
  | some k => k.name
  | none => "RelatedEntityRef"

theorem mem_headwords (k : Option Kind) : k ∈ none :: Kind.all.map some := by
  cases k with
  | none => exact List.mem_cons_self
  | some k => exact List.mem_cons_of_mem _ (List.mem_map_of_mem k.mem_all)

/-- No two kinds have one word, and none has that of related entities. -/
theorem headword_injective {k j : Option Kind} (same : headword k = headword j) : k = j := by
  have all : ∀ k ∈ none :: Kind.all.map some, ∀ j ∈ none :: Kind.all.map some, headword k = headword j → k = j := by
    decide
  exact all k (mem_headwords k) j (mem_headwords j) same

/-- The words that lines begin with are of letters. -/
theorem letters_headword (k : Option Kind) : ∀ c ∈ (headword k).toList, c.isAlpha = true := by
  have all : ∀ k ∈ none :: Kind.all.map some, (headword k).toList.all Char.isAlpha = true := by decide
  exact List.all_eq_true.mp (all k (mem_headwords k))

/-- They begin with a letter, and so with no blank. -/
theorem exists_letter_headword (k : Option Kind) :
    ∃ a as, (headword k).toList = a :: as ∧ (a == ' ') = false := by
  have all : ∀ k ∈ none :: Kind.all.map some, (headword k).toList ≠ [] := by decide
  obtain ⟨a, as, word⟩ := List.exists_cons_of_ne_nil (all k (mem_headwords k))
  refine ⟨a, as, word, beq_eq_false_iff_ne.mpr ?_⟩
  rintro rfl
  exact absurd (letters_headword k ' ' (word ▸ List.mem_cons_self)) (by decide)

namespace OutlineEntry

/-- Where an entry stands and what it is: its depth, and its kind if it is a node. -/
def mark (x : OutlineEntry) : Nat × Option Kind := (x.depth, x.node?.map Expr.kind)

/-- What an entry says is its word, and then something that begins with no letter. -/
theorem label_eq (x : OutlineEntry) :
    ∃ tail c cs, x.label = headword x.mark.2 ++ tail ∧ tail.toList = c :: cs ∧ c.isAlpha = false := by
  cases x with
  | node depth e =>
    have word : headword (node depth e).mark.2 = e.kind.name := rfl
    rw [label_node, word]
    cases e.node.detail? with
    | none =>
      refine ⟨" : " ++ e.type.text, ' ', _, ?_, String.toList_append, rfl⟩
      exact String.append_assoc
    | some detail =>
      refine ⟨"(" ++ (detail ++ ")" ++ " : " ++ e.type.text), '(', _, ?_, String.toList_append, rfl⟩
      simp only [String.append_assoc]
  | related depth source target =>
    have word : headword (related depth source target).mark.2 = "RelatedEntityRef" := rfl
    have opened : "RelatedEntityRef(" = "RelatedEntityRef" ++ "(" := by decide
    refine ⟨"(" ++ (source.name ++ " -> " ++ target.name ++ ")"), '(', _, ?_, String.toList_append, rfl⟩
    rw [word, label_related, opened]
    simp only [String.append_assoc]

/-- A line has its blanks, a word, and something that begins with no letter. -/
theorem line_eq (x : OutlineEntry) : ∃ c cs, c.isAlpha = false ∧
    x.line.toList = List.replicate (2 * x.depth) ' ' ++ ((headword x.mark.2).toList ++ c :: cs) := by
  obtain ⟨tail, c, cs, label, begins, stop⟩ := x.label_eq
  refine ⟨c, cs, stop, ?_⟩
  rw [line, ← indentation_eq_join, indentation, String.toList_append, String.toList_ofList, label, String.toList_append,
    begins]

/-- **A line tells** how deep its entry stands and of what kind it is. -/
theorem mark_of_line {x y : OutlineEntry} (same : x.line = y.line) : x.mark = y.mark := by
  have blank (n : Nat) : ∀ c ∈ List.replicate n ' ', (c == ' ') = true := by
    intro c hc
    rw [List.eq_of_mem_replicate hc]
    rfl
  obtain ⟨c, cs, stop, written⟩ := x.line_eq
  obtain ⟨c', cs', stop', written'⟩ := y.line_eq
  rw [same, written'] at written
  -- the blanks end where the word begins
  obtain ⟨a, as, word, letter⟩ := exists_letter_headword x.mark.2
  obtain ⟨a', as', word', letter'⟩ := exists_letter_headword y.mark.2
  rw [word, word', List.cons_append, List.cons_append] at written
  obtain ⟨blanks, words⟩ := cut_eq_cut (blank _) (blank _) letter' letter written
  rw [← List.cons_append, ← List.cons_append, ← word, ← word'] at words
  -- and the word ends where the letters do
  obtain ⟨heads, _⟩ := cut_eq_cut (letters_headword _) (letters_headword _) stop' stop words
  have depths : 2 * y.depth = 2 * x.depth := by
    have lengths := congrArg List.length blanks
    rwa [List.length_replicate, List.length_replicate] at lengths
  refine Prod.ext ?_ (headword_injective (String.toList_inj.mp heads.symm))
  show x.depth = y.depth
  omega

end OutlineEntry

namespace Expr

/-! ## Expressions of one outline -/

/-- **Plainly written.** No name or string in the outline has a newline. -/
def PlainlyWritten (e : Expr) : Prop := ∀ text ∈ e.writtenTexts, newlines text = 0

theorem plainlyWritten_iff {e : Expr} : e.PlainlyWritten ↔ (e.writtenTexts.map newlines).sum = 0 := by
  rw [List.sum_eq_zero_iff_forall_eq_nat, List.forall_mem_map]
  rfl

/-- Of an expression plainly written, the lines are those of the entries. -/
theorem PlainlyWritten.linesOf_outline {e : Expr} (plain : e.PlainlyWritten) :
    linesOf e.outline = (e.entries 0).map OutlineEntry.line := by
  have free := plainlyWritten_iff.mp plain
  rw [← sum_newlines_entries e 0, List.sum_eq_zero_iff_forall_eq_nat, List.forall_mem_map] at free
  have single : ((e.entries 0).flatMap fun x => linesOf x.line) = (e.entries 0).flatMap fun x => [x.line] := by
    apply List.flatMap_congr
    intro x hx
    exact linesOf_eq_singleton (free x hx)
  rw [Expr.linesOf_outline, single, List.map_eq_flatMap]

/-- Of expressions plainly written, the outline tells the depth and kind of every entry. -/
theorem PlainlyWritten.marks_eq {e f : Expr} (plain : e.PlainlyWritten) (plain' : f.PlainlyWritten)
    (same : e.outline = f.outline) : (e.entries 0).map OutlineEntry.mark = (f.entries 0).map OutlineEntry.mark := by
  have lines : (e.entries 0).map OutlineEntry.line = (f.entries 0).map OutlineEntry.line := by
    rw [← plain.linesOf_outline, ← plain'.linesOf_outline, same]
  rw [← List.forall₂_eq_eq_eq, List.forall₂_map_left_iff, List.forall₂_map_right_iff] at lines
  exact map_eq_of_forall₂ (fun _ _ _ _ line => OutlineEntry.mark_of_line line) lines

/-- The kinds of the nodes are among what the marks tell. -/
theorem kinds_eq_filterMap_mark (e : Expr) :
    e.preorder.map kind = ((e.entries 0).map OutlineEntry.mark).filterMap Prod.snd := by
  rw [← filterMap_node?_entries e 0, List.map_filterMap, List.filterMap_map]
  rfl

/-- The total of a histogram is the number of nodes. -/
theorem total_histogram (e : Expr) : e.histogram.total = e.preorder.length := by
  rw [histogram, visit_eq_foldl_preorder]
  exact (counts_foldl_countKind e.preorder).total

/-- **What the lines of an outline tell.** There is a line for each node that is counted and for each related entity,
    and one more for each newline in a name or string that is written. So there are just as many lines as nodes and
    related entities when the expression is plainly written, and only then. Expressions plainly written that have
    one outline have the same entries, each as deep and of the same kind, and one histogram. -/
theorem lines_of_outline (e : Expr) :
    (linesOf e.outline).length = e.histogram.total + e.relatedCount + (e.writtenTexts.map newlines).sum ∧
    ((linesOf e.outline).length = e.histogram.total + e.relatedCount ↔ e.PlainlyWritten) ∧
    (e.PlainlyWritten → ∀ f : Expr, f.PlainlyWritten → e.outline = f.outline →
      (e.entries 0).map OutlineEntry.mark = (f.entries 0).map OutlineEntry.mark ∧ e.histogram = f.histogram) := by
  have counted : (linesOf e.outline).length =
      e.histogram.total + e.relatedCount + (e.writtenTexts.map newlines).sum := by
    rw [length_linesOf_outline, total_histogram]
  refine ⟨counted, ?_, ?_⟩
  · rw [counted, plainlyWritten_iff]
    omega
  · intro plain f plain' same
    have marks := plain.marks_eq plain' same
    refine ⟨marks, histogram_congr ?_⟩
    rw [kinds_eq_filterMap_mark, kinds_eq_filterMap_mark, marks]

/-- The type of numbers, for columns. -/
def numeric : TypeUse := ⟨.root 0, .primitive .int32⟩

/-- Nothing, of the type of a row of some columns. -/
def nullRow (names : List String) : Expr := ⟨⟨.root 1, .row (names.map fun name => ⟨name, numeric⟩)⟩, .null⟩

/-- A row of two columns and a row of one whose name looks like two are written alike, and the outline still tells
    that there is one null. -/
theorem lines_of_outline_nullRow :
    (nullRow ["a", "b"]).PlainlyWritten ∧ (nullRow ["a Edm.Int32, b"]).PlainlyWritten ∧
      (nullRow ["a", "b"]).outline = (nullRow ["a Edm.Int32, b"]).outline ∧
      (nullRow ["a", "b"]).histogram = (nullRow ["a Edm.Int32, b"]).histogram := by
  have written (names : List String) : (nullRow names).writtenTexts = (nullRow names).type.shape.writtenTexts := by
    have alone : (nullRow names).preorder = [nullRow names] := preorder_eq _
    rw [writtenTexts, alone, List.flatMap_singleton]
    exact List.append_nil _
  have plain : (nullRow ["a", "b"]).PlainlyWritten := by
    rw [plainlyWritten_iff, written]
    decide
  have plain' : (nullRow ["a Edm.Int32, b"]).PlainlyWritten := by
    rw [plainlyWritten_iff, written]
    decide
  have same : (nullRow ["a", "b"]).outline = (nullRow ["a Edm.Int32, b"]).outline := by decide
  obtain ⟨_, _, told⟩ := lines_of_outline (nullRow ["a", "b"])
  exact ⟨plain, plain', same, (told plain _ plain' same).2⟩

/-- A builder under the standard rules. -/
def standardBuilder : Builder := ⟨.standard, fun _ => false, .root 0⟩

/-- A text, as a constant. -/
def quoted (value : String) : Expr := ⟨⟨.root 0, .primitive .string⟩, .constant (.string value)⟩

/-- A collection of texts. -/
def quotedAll (values : List String) : Expr :=
  ⟨⟨.root 0, .collection ⟨.root 0, .primitive .string⟩⟩, .newInstance (values.map quoted) []⟩

/-- A text that is written like two. -/
def twoInOne : String := "a') : Edm.String\n  Constant('b"

/-- A collection of one text is built that looks like a collection of two. It has two nodes and no related entity, but
    three lines. -/
theorem outline_of_imitated_node :
    standardBuilder.constant (.string twoInOne) = .ok (quoted twoInOne) ∧
      standardBuilder.newCollection [quoted twoInOne] = .ok (quotedAll [twoInOne]) ∧
      standardBuilder.newCollection [quoted "a", quoted "b"] = .ok (quotedAll ["a", "b"]) ∧
      (quotedAll [twoInOne]).outline = (quotedAll ["a", "b"]).outline ∧
      (quotedAll [twoInOne]).histogram.total = 2 ∧ (quotedAll ["a", "b"]).histogram.total = 3 ∧
      (linesOf (quotedAll [twoInOne]).outline).length ≠
        (quotedAll [twoInOne]).histogram.total + (quotedAll [twoInOne]).relatedCount := by
  have lines : (linesOf (quotedAll [twoInOne]).outline).length = 3 := by decide
  have nodes : (quotedAll [twoInOne]).histogram.total = 2 := rfl
  have related : (quotedAll [twoInOne]).relatedCount = 0 := by
    simp [quotedAll, quoted, relatedCount, preorder_eq, children, Node.children, Node.related]
  refine ⟨rfl, rfl, rfl, by decide, nodes, rfl, ?_⟩
  rw [lines, nodes, related]
  decide

end Expr
end EntityQuery
