import EntityQuery.Proofs.Expr.Entries
import EntityQuery.Proofs.Literal.WrittenForms
import EntityQuery.Proofs.Text.Lines
/-!
# `Proofs.Expr.WrittenTexts` — texts that stand in an outline as they are

Most of what an outline says is made of a fixed stock of words, digits and marks. But names, and the strings that
are constants, are written as they were given, with nothing escaped. These texts are all that can bring a newline
into an outline: a line has the newlines of the texts written in it, and no others.

## Contents
* `Literal.writtenTexts`, `newlines_text` — only strings are written as they are.
* `Shape.writtenTexts`, `Node.writtenTexts`, `OutlineEntry.writtenTexts` — names in types, names and strings in nodes,
  names of ends.
* `OutlineEntry.newlines_line` — the newlines in the line of an entry.
-/

namespace EntityQuery

/-! ## Literals -/

/-- Digits in base sixteen, of whatever case, are on one line. -/
theorem ne_newline_of_digit {c : Char} (h : isLowerDigit c = true ∨ isUpperDigit c = true) : c ≠ '\n' := by
  rintro rfl
  exact absurd h (by decide)

theorem ne_newline_of_isDigit {c : Char} (h : c.isDigit = true) : c ≠ '\n' :=
  ne_newline_of_digit (.inl (by rw [isLowerDigit, h, Bool.true_or]))

/-- A natural number is written in digits. -/
theorem newlines_toString_nat (n : Nat) : newlines (toString n) = 0 := by
  rw [newlines_eq_zero_iff, Nat.toString_eq_repr, Nat.repr_eq_ofList_toDigits, String.toList_ofList]
  intro c hc
  exact ne_newline_of_isDigit (Nat.isDigit_of_mem_toDigits (by omega) (by omega) hc)

/-- An integer is written in digits after a sign. -/
theorem newlines_toString_int (i : Int) : newlines (toString i) = 0 := by
  cases i with
  | ofNat n => exact newlines_toString_nat n
  | negSucc n =>
    show newlines ("-" ++ toString (n + 1)) = 0
    rw [newlines_append, newlines_toString_nat]
    rfl

theorem newlines_decimal (d : Decimal) : newlines d.text = 0 := by
  obtain ⟨sign, whole, fraction, parts, written⟩ := d.writtenAs_text
  rw [newlines_eq_zero_iff, written]
  intro c hc
  rcases List.mem_append.mp hc with hc | hc
  · rcases List.mem_append.mp hc with hc | hc
    · rw [parts.sign_eq] at hc
      split at hc
      · rw [List.mem_singleton.mp hc]
        decide
      · exact absurd hc List.not_mem_nil
    · exact ne_newline_of_isDigit (parts.plain.decimal c hc)
  · split at hc
    · exact absurd hc List.not_mem_nil
    · rcases List.mem_cons.mp hc with rfl | hc
      · decide
      · exact ne_newline_of_isDigit (parts.decimal c hc)

theorem newlines_bytes (bytes : Bytes) : newlines bytes.text = 0 := by
  have digits : newlines (String.ofList (bytes.flatMap Bytes.pairOf)) = 0 := by
    rw [newlines_eq_zero_iff, String.toList_ofList]
    intro c hc
    obtain ⟨byte, _, hc⟩ := List.mem_flatMap.mp hc
    exact ne_newline_of_digit (.inr ((Bytes.pair_pairOf byte).upper c hc))
  show newlines ("0x" ++ String.ofList (bytes.flatMap Bytes.pairOf)) = 0
  rw [newlines_append, digits]
  rfl

theorem newlines_guid (g : Guid) : newlines g.text = 0 := by
  obtain ⟨groups, _, lower, _, written⟩ := g.writtenAs_text
  rw [written, newlines_intercalate rfl, List.sum_eq_zero_iff_forall_eq_nat]
  intro n hn
  obtain ⟨text, ht, rfl⟩ := List.mem_map.mp hn
  obtain ⟨group, hg, rfl⟩ := List.mem_map.mp ht
  rw [newlines_eq_zero_iff, String.toList_ofList]
  intro c hc
  exact ne_newline_of_digit (.inl (lower c (List.mem_flatten_of_mem hg hc)))

/-- Digits of fixed width, without the zeros at their end. -/
theorem newlines_fraction (width n : Nat) :
    newlines (String.ofList ((fixedDigits 10 width n).reverse.dropWhile (· == '0')).reverse) = 0 := by
  rw [newlines_eq_zero_iff, String.toList_ofList]
  intro c hc
  have digit : c ∈ fixedDigits 10 width n :=
    List.mem_reverse.mp ((List.dropWhile_suffix _).subset (List.mem_reverse.mp hc))
  exact ne_newline_of_isDigit (isDigit_of_mem_fixedDigits digit)

/-- A decimal written out has digits and at most a point. -/
theorem newlines_positionalText (d : Nat) (k : Int) : newlines (positionalText d k) = 0 := by
  unfold positionalText
  split
  · exact newlines_toString_nat _
  · dsimp only
    split
    · exact newlines_toString_nat _
    · rw [newlines_append, newlines_append, newlines_toString_nat, newlines_fraction]
      rfl

theorem newlines_floatValue (v : FloatValue) : newlines v.text = 0 := by
  cases v with
  | nan => rfl
  | infinite negative => cases negative <;> rfl
  | zero negative => cases negative <;> rfl
  | finite negative magnitude =>
    show newlines ((if negative then "-" else "") ++ positionalText magnitude.shortest.1 magnitude.shortest.2) = 0
    rw [newlines_append, newlines_positionalText]
    cases negative <;> rfl

/-- What of a literal is written as it is. -/
def Literal.writtenTexts : Literal → List String
  | .string value => [value]
  | _ => []

/-- **Only strings bring newlines** into the written form of a literal. -/
theorem Literal.newlines_text (v : Literal) : newlines v.text = (v.writtenTexts.map newlines).sum := by
  cases v with
  | binary bytes => exact newlines_bytes bytes
  | boolean b => cases b <;> rfl
  | byte n => exact newlines_toString_nat n.toNat
  | decimal d => exact newlines_decimal d
  | double bits => exact newlines_floatValue _
  | guid g => exact newlines_guid g
  | single bits => exact newlines_floatValue _
  | sbyte n => exact newlines_toString_int n.toInt
  | int16 n => exact newlines_toString_int n.toInt
  | int32 n => exact newlines_toString_int n.toInt
  | int64 n => exact newlines_toString_int n.toInt
  | string s =>
    show newlines ("'" ++ s ++ "'") = newlines s + 0
    rw [newlines_append, newlines_append]
    show 0 + newlines s + 0 = newlines s + 0
    rw [Nat.zero_add]

/-! ## Types -/

mutual

/-- The names that a type is written with. -/
def TypeUse.writtenTexts : TypeUse → List String
  | ⟨_, s⟩ => s.writtenTexts
termination_by structural t => t

/-- The names that a shape is written with: its own full name, or the names of its columns and those in its
    parts. -/
def Shape.writtenTexts : Shape TypeUse → List String
  | .primitive _ => []
  | .enumeration e => [e.fullName]
  | .entity e => [e.fullName]
  | .complex c => [c.name.text]
  | .row columns => columnsWrittenTexts columns
  | .relationship r => [r.fullName]
  | .collection element => element.writtenTexts
  | .reference e => [e.fullName]
termination_by structural s => s

/-- The names that the columns of a row are written with. -/
def columnsWrittenTexts : List (Property TypeUse) → List String
  | [] => []
  | ⟨name, type⟩ :: columns => name :: type.writtenTexts ++ columnsWrittenTexts columns
termination_by structural columns => columns

end

theorem TypeUse.writtenTexts_eq (t : TypeUse) : t.writtenTexts = t.shape.writtenTexts := by
  obtain ⟨_, s⟩ := t
  rw [TypeUse.writtenTexts]

/-- The columns of a row bring the newlines of their names and types. -/
theorem newlines_columnTexts {columns : List (Property TypeUse)}
    (each : ∀ p ∈ columns, newlines p.type.shape.text = (p.type.shape.writtenTexts.map newlines).sum) :
    ((columnTexts columns).map newlines).sum = ((columnsWrittenTexts columns).map newlines).sum := by
  induction columns with
  | nil => rfl
  | cons p ps ih =>
    obtain ⟨name, type⟩ := p
    obtain ⟨here, rest⟩ := List.forall_mem_cons.mp each
    have here : newlines type.shape.text = (type.shape.writtenTexts.map newlines).sum := here
    have blank : newlines " " = 0 := rfl
    rw [columnTexts, columnsWrittenTexts, List.map_cons, List.sum_cons, ih rest, List.cons_append, List.map_cons,
      List.sum_cons, List.map_append, List.sum_append, newlines_append, newlines_append, blank, TypeUse.text_eq, here,
      TypeUse.writtenTexts_eq]
    omega

/-- **Only names bring newlines** into the written form of a type. -/
theorem Shape.newlines_text (s : EdmShape) : newlines s.text = (s.writtenTexts.map newlines).sum := by
  induction s using inductionOnParts with
  | step s ih =>
    cases s with
    | primitive k => cases k <;> rfl
    | enumeration _ | entity _ | complex _ | relationship _ => exact (Nat.add_zero _).symm
    | reference e =>
      show newlines ("Ref(" ++ e.fullName ++ ")") = newlines e.fullName + 0
      rw [newlines_append, newlines_append]
      exact Nat.zero_add _
    | collection element =>
      show newlines ("Collection(" ++ element.text ++ ")") = (element.writtenTexts.map newlines).sum
      rw [newlines_append, newlines_append, TypeUse.text_eq, TypeUse.writtenTexts_eq,
        ih element (List.mem_singleton_self element)]
      exact Nat.zero_add _
    | row columns =>
      have each := newlines_columnTexts fun p hp => ih p.type (List.mem_map_of_mem hp)
      show newlines ("Row(" ++ ", ".intercalate (columnTexts columns) ++ ")") =
        ((columnsWrittenTexts columns).map newlines).sum
      rw [newlines_append, newlines_append, newlines_intercalate rfl, each]
      exact Nat.zero_add _

/-! ## Nodes and entries -/

/-- The texts that a node's line says as they are, beside its type. -/
def Node.writtenTexts {ε : Type} : Node ε → List String
  | constant value => value.writtenTexts
  | variableReference name => [name]
  | parameterReference name => [name]
  | property member _ => [member.name]
  | function f _ => [f.fullName]
  | lambda l _ => l.formals.map (·.name)
  | navigation r fromEnd toEnd _ => [r.fullName, fromEnd.name, toEnd.name]
  | ref set _ => [set.name]
  | scan extent => [extent.container, extent.name]
  | filter input _ => [input.element.name]
  | project input _ => [input.element.name]
  | null | newInstance _ _ | deref _ | comparison _ _ _ | and _ _ | or _ _ | not _ | isNull _ => []

/-- What a node's line says beside its kind brings the newlines of the texts in it. -/
theorem Node.newlines_detail {ε : Type} (n : Node ε) :
    newlines (n.detail?.getD "") = (n.writtenTexts.map newlines).sum := by
  cases n with
  | constant value => exact value.newlines_text
  | variableReference _ | property _ _ | function _ _ | ref _ _ | filter _ _ | project _ _ =>
    exact (Nat.add_zero _).symm
  | parameterReference name =>
    show newlines ("@" ++ name) = newlines name + 0
    rw [newlines_append]
    exact Nat.zero_add _
  | lambda l _ => exact newlines_intercalate rfl _
  | navigation r fromEnd toEnd _ =>
    show newlines (r.fullName ++ ": " ++ fromEnd.name ++ " -> " ++ toEnd.name) =
      newlines r.fullName + (newlines fromEnd.name + (newlines toEnd.name + 0))
    have colon : newlines ": " = 0 := rfl
    have arrow : newlines " -> " = 0 := rfl
    simp only [newlines_append, colon, arrow]
    omega
  | scan extent =>
    show newlines (extent.container ++ "." ++ extent.name) = newlines extent.container + (newlines extent.name + 0)
    rw [newlines_append, newlines_append]
    rfl
  | null | newInstance _ _ | deref _ | comparison _ _ _ | and _ _ | or _ _ | not _ | isNull _ => rfl

namespace OutlineEntry

/-- The texts that the line of an entry says as they are: of a node, those in its detail and in its type; of a
    related entity, the names of its ends. -/
def writtenTexts : OutlineEntry → List String
  | node _ e => e.node.writtenTexts ++ e.type.shape.writtenTexts
  | related _ source target => [source.name, target.name]

theorem newlines_kind (k : Kind) : newlines k.name = 0 := by
  have all : ∀ k ∈ Kind.all, newlines k.name = 0 := by decide
  exact all k k.mem_all

theorem label_node (depth : Nat) (e : Expr) :
    (node depth e).label =
      match e.node.detail? with
      | some detail => e.kind.name ++ "(" ++ detail ++ ")" ++ " : " ++ e.type.text
      | none => e.kind.name ++ " : " ++ e.type.text := rfl

theorem label_related (depth : Nat) (source target : RelationshipEnd) :
    (related depth source target).label = "RelatedEntityRef(" ++ source.name ++ " -> " ++ target.name ++ ")" := rfl

theorem newlines_label (x : OutlineEntry) : newlines x.label = (x.writtenTexts.map newlines).sum := by
  have marks : newlines "(" = 0 ∧ newlines ")" = 0 ∧ newlines " : " = 0 ∧ newlines " -> " = 0 ∧
      newlines "RelatedEntityRef(" = 0 := ⟨rfl, rfl, rfl, rfl, rfl⟩
  obtain ⟨opened, closed, colon, arrow, related⟩ := marks
  cases x with
  | node depth e =>
    have detail := e.node.newlines_detail
    unfold writtenTexts
    rw [List.map_append, List.sum_append, ← detail, ← e.type.shape.newlines_text, ← TypeUse.text_eq, label_node]
    cases e.node.detail? with
    | none =>
      simp only [newlines_append, newlines_kind, colon]
      rfl
    | some detail =>
      simp only [newlines_append, newlines_kind, opened, closed, colon, Option.getD_some]
      omega
  | related depth source target =>
    show _ = newlines source.name + (newlines target.name + 0)
    rw [label_related]
    simp only [newlines_append, related, arrow, closed]
    omega

/-- **The newlines of a line** are those of the names and strings that are written in it. -/
theorem newlines_line (x : OutlineEntry) : newlines x.line = (x.writtenTexts.map newlines).sum := by
  have blanks : newlines (indentation x.depth) = 0 := by
    rw [newlines_eq_zero_iff, indentation, String.toList_ofList]
    intro c hc
    rw [List.eq_of_mem_replicate hc]
    decide
  rw [line, ← indentation_eq_join, newlines_append, blanks, Nat.zero_add, newlines_label]

end OutlineEntry

end EntityQuery
