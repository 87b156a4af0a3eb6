import EntityQuery.Proofs.Builder.Acceptance
/-!
# `Proofs.Builder.Rows` — reading the columns of a row

A row is built by position: its columns are listed one after another, each of the type of its value. It is read
by name, and as with every structural type a name stands for the first property that has it. So each
column of a row can be read by its name, unless an earlier column has the same name and is read in its place.
Nothing is lost on the way through a projection: the elements of what is mapped to a row have the type of the
row.

## Contents
* `FirstColumn` — the first column of a name; `exists_firstColumn`, `FirstColumn.unique`.
* `Reads` — reading a member by name gives a value of a type; `reads_of_rowShape`.
* `exists_bind_project` — a variable over what is mapped.
* `Builder.newRow_reads` — the columns of an accepted row.
-/

namespace EntityQuery

variable {columns : List (String × Expr)} {name : String} {value first : Expr} {i j : Nat}

/-! ## Columns -/

/-- **The first column of a name,** with its place and its value. -/
structure FirstColumn (columns : List (String × Expr)) (name : String) (i : Nat) (value : Expr) : Prop where
  column : columns[i]? = some (name, value)
  earlier : ∀ k < i, ∀ c, columns[k]? = some c → c.1 ≠ name

/-- A name is that of a first column, in the place of any column of the name or before it. -/
theorem exists_firstColumn (column : columns[i]? = some (name, value)) :
    ∃ j first, j ≤ i ∧ FirstColumn columns name j first := by
  induction i using Nat.strongRecOn generalizing value with
  | ind i ih =>
    by_cases earlier : ∃ k < i, ∃ v, columns[k]? = some (name, v)
    · obtain ⟨k, less, v, hk⟩ := earlier
      obtain ⟨j, first, atMost, isFirst⟩ := ih k less hk
      exact ⟨j, first, by omega, isFirst⟩
    · refine ⟨i, value, Nat.le_refl i, column, ?_⟩
      rintro k less ⟨n, v⟩ hk rfl
      exact earlier ⟨k, less, v, hk⟩

/-- A column that no column of its name comes before is the first one. -/
theorem FirstColumn.unique (isFirst : FirstColumn columns name j first) (atMost : j ≤ i)
    (column : columns[i]? = some (name, value)) (earlier : ∀ k < i, ∀ c, columns[k]? = some c → c.1 ≠ name) :
    j = i ∧ first = value := by
  have same : j = i := by
    by_contra other
    exact earlier j (by omega) (name, first) isFirst.column rfl
  subst same
  have values := Option.some.inj (isFirst.column.symm.trans column)
  exact ⟨rfl, (Prod.mk.inj values).2⟩

/-- Looking a name up in a row gives the first column of the name. -/
theorem FirstColumn.structuralProperty?_rowShape (isFirst : FirstColumn columns name i value) :
    (Builder.rowShape columns).structuralProperty? name = some ⟨name, value.type⟩ := by
  have found : columns.find? (·.1 == name) = some (name, value) := by
    obtain ⟨short, column⟩ := List.getElem?_eq_some_iff.mp isFirst.column
    apply List.find?_eq_some_iff_getElem.mpr
    refine ⟨beq_self_eq_true name, i, short, column, ?_⟩
    intro k less
    have other := isFirst.earlier k less _ (List.getElem?_eq_getElem (Nat.lt_trans less short))
    simpa using other
  show (columns.map _).find? _ = _
  rw [List.find?_map]
  show (columns.find? (·.1 == name)).map _ = _
  rw [found]
  rfl

/-! ## Reading -/

/-- **Reads as.** Whoever builds expressions can read the member of the name, and what is read has the very type
    use. -/
def Reads (object : Expr) (name : String) (type : TypeUse) : Prop :=
  ∀ b : Builder, ∃ e, b.property object name = .ok e ∧ e.type = type

/-- What has the type of a row is read by the first column of a name. -/
theorem reads_of_rowShape {object : Expr} (shape : object.type.shape = Builder.rowShape columns)
    (isFirst : FirstColumn columns name i value) : Reads object name value.type := by
  intro b
  have found : object.type.shape.member? name = some (.property ⟨name, value.type⟩) := by
    rw [shape]
    show ((Builder.rowShape columns).structuralProperty? name).map Member.property = _
    rw [isFirst.structuralProperty?_rowShape]
    rfl
  exact ⟨_, Builder.property_eq_ok_iff.mpr ⟨_, value.type, found, rfl, rfl⟩, rfl⟩

namespace Builder

variable {b : Builder} {row : Expr}

/-- **A variable over what is mapped** is of the very type use that elements are mapped to. -/
theorem exists_bind_project (elements : ∀ t, b.rules.element? (.collection t) = some t) (projecting : Builder)
    (input : Binding) (e : Expr) (proper : name ≠ "") :
    ∃ bound, b.bind (projecting.project input e) name = .ok bound ∧ bound.element = ⟨name, e.type⟩ :=
  ⟨_, bind_eq_ok_iff_element.mpr ⟨e.type, elements e.type, proper, rfl⟩, rfl⟩

/-- **The columns of a row.** For each column of an accepted row, reading its name is accepted and gives a value
    of the very type use of the first column of that name, which is the column itself when no earlier one has
    its name. It is the same for a variable that ranges over what is mapped to the row, under rules that know
    the elements of a collection, as the standard ones do. -/
theorem newRow_reads (made : b.newRow columns = .ok row) (column : columns[i]? = some (name, value)) :
    ∃ j first, j ≤ i ∧ FirstColumn columns name j first ∧ Reads row name first.type ∧
      (∀ (projecting binding : Builder) input each, each ≠ "" →
        (∀ t, binding.rules.element? (.collection t) = some t) →
          ∃ bound, binding.bind (projecting.project input row) each = .ok bound ∧
            Reads bound.element.toExpr name first.type) ∧
      ((∀ k < i, ∀ c, columns[k]? = some c → c.1 ≠ name) → j = i ∧ first = value) := by
  obtain ⟨_, rfl⟩ := newRow_eq_ok_iff.mp made
  obtain ⟨j, first, atMost, isFirst⟩ := exists_firstColumn column
  refine ⟨j, first, atMost, isFirst, reads_of_rowShape rfl isFirst, ?_, ?_⟩
  · intro projecting binding input each proper elements
    obtain ⟨bound, accepted, element⟩ := exists_bind_project elements projecting input _ proper
    refine ⟨bound, accepted, reads_of_rowShape ?_ isFirst⟩
    rw [element]
    rfl
  · intro earlier
    exact isFirst.unique atMost column earlier

/-- A number, for a column of a row. -/
def number : Expr := ⟨⟨.root 0, .primitive .int32⟩, .constant (.int32 7)⟩

/-- A text, for another column. -/
def text : Expr := ⟨⟨.root 1, .primitive .string⟩, .constant (.string "seven")⟩

/-- One number, bound. -/
def numbers : Binding where
  source := ⟨⟨.root 2, .collection number.type⟩, .newInstance [number] []⟩
  element := ⟨"n", number.type⟩

/-- The builder of an operation, under the standard rules. -/
def ofSite (site : Nat) : Builder := ⟨.standard, fun _ => true, .root site⟩

/-- The text in the second column is read from the row, and from each row of a projection. -/
theorem newRow_reads_label :
    ∃ row, (ofSite 3).newRow [("count", number), ("label", text)] = .ok row ∧ Reads row "label" text.type ∧
      ∃ bound, (ofSite 5).bind ((ofSite 4).project numbers row) "r" = .ok bound ∧
        Reads bound.element.toExpr "label" text.type := by
  have made : (ofSite 3).newRow [("count", number), ("label", text)] = .ok _ :=
    newRow_eq_ok_iff.mpr ⟨.inl (by simp), rfl⟩
  have elements : ∀ t, (ofSite 5).rules.element? (.collection t) = some t := fun _ => rfl
  obtain ⟨j, first, _, _, reads, through, unshadowed⟩ :=
    newRow_reads made (show _[1]? = some ("label", text) from rfl)
  have earlier : ∀ k < 1, ∀ c, [("count", number), ("label", text)][k]? = some c → c.1 ≠ "label" := by
    intro k less c hc
    obtain rfl : k = 0 := by omega
    obtain rfl := Option.some.inj hc
    decide
  obtain ⟨_, rfl⟩ := unshadowed earlier
  exact ⟨_, made, reads, through (ofSite 4) (ofSite 5) numbers "r" (by decide) elements⟩

/-- Of two columns of one name, the text in the second cannot be read. -/
theorem newRow_hides_second_of_one_name :
    ∃ row e, (ofSite 3).newRow [("a", number), ("a", text)] = .ok row ∧
      (ofSite 4).property row "a" = .ok e ∧ e.type = number.type ∧ number.type ≠ text.type := by
  refine ⟨_, _, rfl, rfl, rfl, ?_⟩
  intro same
  have shapes := congrArg TypeUse.shape same
  simp [number, text] at shapes

end Builder
end EntityQuery
