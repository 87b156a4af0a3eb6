import Mathlib.Data.List.TakeWhile
import EntityQuery.Literal.Reading
import EntityQuery.Proofs.Literal.WrittenForms
/-!
# `Proofs.Literal.Reading` — what is written can be read

Reading takes back what writing did, kind by kind. So the written form of a literal tells it from every other
literal of its kind, and two literals of one kind are written alike only when they are equal. This is so however
many digits there are: of a decimal's mantissa, of an identifier, of a byte string. Only the floating kinds are left
out.

## Contents
* `Decimal.ofText?_text`, `Guid.ofDigits_text`, `Bytes.ofDigits_text` — the kinds with a layout of their own.
* `Literal.interpret?_text`, `Literal.ofText?_eq_some_iff_text` — every kind.
* `Literal.text_determines` — written forms tell literals apart, and which form each kind has.
-/

namespace EntityQuery

/-! ## Decimals -/

namespace Decimal

variable (d : Decimal)

/-- Digits are neither a point nor a minus. -/
theorem ne_of_isDigit {c : Char} (h : c.isDigit = true) : c ≠ '.' ∧ c ≠ '-' := by
  constructor <;> (rintro rfl; exact absurd h (by decide))

/-- An unsigned text is cut at its point. -/
theorem ofUnsigned?_append {negative : Bool} {whole fraction : List Char} (digits : ∀ c ∈ whole, c.isDigit = true) :
    ofUnsigned? negative (whole ++ if fraction = [] then [] else '.' :: fraction) =
      ofDigits? negative whole fraction := by
  have before : ∀ c ∈ whole, (c != '.') = true := fun c h => bne_iff_ne.mpr (ne_of_isDigit (digits c h)).1
  unfold ofUnsigned?
  by_cases none : fraction = []
  · rw [if_pos none, List.append_nil, List.takeWhile_eq_self_iff.mpr before, List.dropWhile_eq_nil_iff.mpr before, none]
    rfl
  · rw [if_neg none, List.takeWhile_append_of_pos before, List.dropWhile_append_of_pos before]
    simp

/-- A text is read by its sign, when what follows begins with a digit. -/
theorem ofText?_of_sign {text : String} {whole rest : List Char} (plain : PlainNumeral whole)
    (h : text.toList = d.sign ++ whole ++ rest) : ofText? text = ofUnsigned? (d.mantissa < 0) (whole ++ rest) := by
  obtain ⟨c, cs, rfl⟩ := List.exists_cons_of_ne_nil plain.nonempty
  have unsigned : c ≠ '-' := (ne_of_isDigit (plain.decimal c List.mem_cons_self)).2
  unfold ofText?
  rw [h, sign]
  by_cases negative : d.mantissa < 0
  · rw [if_pos negative, decide_eq_true negative]
    rfl
  · rw [if_neg negative, decide_eq_false negative, List.nil_append, List.cons_append]
    split
    · rename_i same
      exact absurd (List.cons.inj same).1 unsigned
    · rfl

/-- The digits of a decimal and its sign give the decimal. -/
theorem ofDigits?_digits : ofDigits? (d.mantissa < 0) d.wholeDigits d.fractionDigits = some d := by
  have signed : (if (decide (d.mantissa < 0)) = true then -(d.mantissa.natAbs : Int) else d.mantissa.natAbs) =
      d.mantissa := by
    by_cases negative : d.mantissa < 0
    · rw [if_pos (decide_eq_true negative)]
      omega
    · rw [if_neg (by rw [decide_eq_true_eq]; exact negative)]
      omega
  have made : make d.mantissa d.scale = .ok d := make_eq_ok_iff.mpr ⟨rfl, rfl⟩
  unfold ofDigits?
  rw [numeralValue_digits, length_fractionDigits]
  dsimp only
  rw [signed, made]
  rfl

/-- **Decimals read back,** of any mantissa and scale. -/
theorem ofText?_text : ofText? d.text = some d := by
  have plain : PlainNumeral d.wholeDigits := plainNumeral_toDigits _
  have places : (d.scale = 0) = (d.fractionDigits = []) := by
    rw [← length_fractionDigits, List.length_eq_zero_iff]
  rw [ofText?_of_sign d plain d.toList_text]
  simp only [places]
  rw [ofUnsigned?_append plain.decimal]
  exact d.ofDigits?_digits

end Decimal

/-! ## Identifiers and byte strings -/

/-- Taking the hyphens out of joined groups leaves the groups, where these have none. -/
theorem filter_intercalate {groups : List (List Char)} (free : ∀ c ∈ groups.flatten, c ≠ '-') :
    (['-'].intercalate groups).filter (· != '-') = groups.flatten := by
  have kept {cs : List Char} (h : ∀ c ∈ cs, c ≠ '-') : cs.filter (· != '-') = cs :=
    List.filter_eq_self.mpr fun c hc => bne_iff_ne.mpr (h c hc)
  induction groups with
  | nil => rfl
  | cons group groups ih =>
    rw [List.flatten_cons] at free
    have here := kept fun c h => free c (List.mem_append_left _ h)
    have there := ih fun c h => free c (List.mem_append_right _ h)
    cases groups with
    | nil => simpa using here
    | cons next groups =>
      rw [List.intercalate_cons_cons, List.filter_append, List.filter_append, here, there]
      simp

namespace Guid

variable (g : Guid)

/-- The digits in the text of an identifier are its digits. -/
theorem filter_text : g.text.toList.filter (· != '-') = g.digits := by
  have letters {c : Char} (h : c ∈ g.digits) : c ≠ '-' := by
    rintro rfl
    exact absurd (g.isLowerDigit_of_mem_digits h) (by decide)
  have groups : g.text.toList = ['-'].intercalate (groupsOf groupLengths g.digits) := by
    show ("-".intercalate ((groupsOf groupLengths g.digits).map String.ofList)).toList = _
    rw [String.toList_intercalate, List.map_map]
    simp [Function.comp_def]
  rw [groups, filter_intercalate (by rw [flatten_groups]; exact fun c h => letters h), flatten_groups]

/-- **Identifiers read back.** -/
theorem ofDigits_text : ofDigits (g.text.toList.filter (· != '-')) = g := by
  rw [filter_text, ofDigits, numeralValue_digits, BitVec.ofNat_toNat, BitVec.setWidth_eq]

end Guid

/-- **Byte strings read back,** byte by byte. -/
theorem Bytes.ofDigits_text (bytes : Bytes) : Bytes.ofDigits (bytes.text.toList.drop 2) = bytes := by
  have digits : bytes.text.toList.drop 2 = bytes.flatMap pairOf := by
    rw [text, String.toList_append]
    show (String.ofList (bytes.flatMap pairOf)).toList = _
    exact String.toList_ofList
  rw [digits]
  clear digits
  induction bytes with
  | nil => rfl
  | cons byte bytes ih =>
    have value := (pair_pairOf byte).value
    rw [pairOf_eq] at value
    rw [List.flatMap_cons, pairOf_eq, List.cons_append, List.cons_append, List.nil_append, ofDigits_cons_cons,
      value, UInt8.ofNat_toNat, ih]

/-! ## Every kind -/

namespace Literal

/-- **Integers read back.** An integer is written as the decimal without a fraction. -/
theorem integer?_toString (i : Int) : integer? (toString i) = some i := by
  let d : Decimal := ⟨i, 0, Nat.zero_le _⟩
  have same : d.text = toString i := if_pos rfl
  rw [integer?, ← same, Decimal.ofText?_text]
  rfl

/-- **Reading takes back writing,** for every kind but the floating ones. -/
theorem interpret?_text (v : Literal) (notDouble : v.kind ≠ .double) (notSingle : v.kind ≠ .single) :
    interpret? v.kind v.text = some v := by
  cases v with
  | binary bytes =>
    show some (binary (Bytes.ofDigits (bytes.text.toList.drop 2))) = _
    rw [Bytes.ofDigits_text]
  | boolean b => cases b <;> rfl
  | byte n =>
    show (integer? (toString (n.toNat : Int))).map _ = _
    rw [integer?_toString, Option.map_some, Function.comp_apply, Function.comp_apply, Int.toNat_natCast,
      UInt8.ofNat_toNat]
  | decimal d =>
    show (Decimal.ofText? d.text).map _ = _
    rw [Decimal.ofText?_text, Option.map_some]
  | double _ => exact absurd rfl notDouble
  | guid g =>
    show some (guid (Guid.ofDigits (g.text.toList.filter (· != '-')))) = _
    rw [Guid.ofDigits_text]
  | single _ => exact absurd rfl notSingle
  | sbyte n =>
    show (integer? (toString n.toInt)).map _ = _
    rw [integer?_toString, Option.map_some, Function.comp_apply, Int8.ofInt_toInt]
  | int16 n =>
    show (integer? (toString n.toInt)).map _ = _
    rw [integer?_toString, Option.map_some, Function.comp_apply, Int16.ofInt_toInt]
  | int32 n =>
    show (integer? (toString n.toInt)).map _ = _
    rw [integer?_toString, Option.map_some, Function.comp_apply, Int32.ofInt_toInt]
  | int64 n =>
    show (integer? (toString n.toInt)).map _ = _
    rw [integer?_toString, Option.map_some, Function.comp_apply, Int64.ofInt_toInt]
  | string s =>
    show some (string (String.ofList (("'" ++ s ++ "'").toList.drop 1).dropLast)) = _
    rw [String.toList_append, String.toList_append]
    show some (string (String.ofList (s.toList ++ ['\'']).dropLast)) = _
    rw [List.dropLast_concat, String.ofList_toList]

/-- **A text is read as the literal that is written so,** and as nothing else. -/
theorem ofText?_eq_some_iff_text {kind : Primitive} {text : String} {v : Literal} (notDouble : kind ≠ .double)
    (notSingle : kind ≠ .single) : ofText? kind text = some v ↔ v.kind = kind ∧ v.text = text := by
  rw [ofText?_eq_some_iff]
  constructor
  · exact And.right
  · rintro ⟨rfl, rfl⟩
    exact ⟨interpret?_text v notDouble notSingle, rfl, rfl⟩

/-- Literals of kinds that are not floating are equal when they are the same. -/
theorem equal_iff {v w : Literal} (notDouble : v.kind ≠ .double) (notSingle : v.kind ≠ .single) :
    v.equal w = true ↔ v = w := by
  cases v <;> cases w <;> simp_all [equal, kind]

/-- **Written forms are faithful.** For each kind but the floating ones, a literal is read back from its written
    form, and from no other; so two literals of one kind are written alike exactly when they are equal. Decimals
    of every mantissa, and of every scale that is allowed, are written as a sign when negative, a plain numeral and
    as many places as the scale, and stand for the mantissa over ten to the scale. Identifiers are written in
    lower-case digits in five groups, byte strings in pairs of upper-case ones, each standing for its value. -/
theorem text_determines :
    (∀ kind text v, kind ≠ .double → kind ≠ .single →
      (ofText? kind text = some v ↔ v.kind = kind ∧ v.text = text)) ∧
    (∀ v w : Literal, v.kind = w.kind → v.kind ≠ .double → v.kind ≠ .single →
      (v.text = w.text ↔ v.equal w = true)) ∧
    (∀ mantissa scale d, Decimal.make mantissa scale = .ok d →
      d.mantissa = mantissa ∧ d.scale = scale ∧ d.WrittenAs (decimal d).text) ∧
    (∀ g : Guid, g.WrittenAs (guid g).text) ∧
    ∀ bytes : Bytes, bytes.WrittenAs (binary bytes).text := by
  refine ⟨?_, ?_, ?_, ?_, ?_⟩
  · intro kind text v notDouble notSingle
    exact ofText?_eq_some_iff_text notDouble notSingle
  · intro v w same notDouble notSingle
    rw [equal_iff notDouble notSingle]
    constructor
    · intro alike
      -- both are what the one text is read as
      have readV := (ofText?_eq_some_iff_text notDouble notSingle).mpr ⟨rfl, rfl⟩
      have readW := (ofText?_eq_some_iff_text notDouble notSingle).mpr ⟨same.symm, alike.symm⟩
      exact Option.some.inj (readV.symm.trans readW)
    · rintro rfl
      rfl
  · intro mantissa scale d made
    obtain ⟨rfl, rfl⟩ := Decimal.make_eq_ok_iff.mp made
    exact ⟨rfl, rfl, d.writtenAs_text⟩
  · intro g
    exact g.writtenAs_text
  · intro bytes
    exact bytes.writtenAs_text

/-- The least mantissa of 128 bits at the largest scale: its size is no mantissa of that width. -/
def leastDecimal : Decimal := ⟨-2 ^ 127, 28, by decide⟩

theorem text_determines_leastDecimal :
    leastDecimal.text = "-17014118346.0469231731687303715884105728" ∧
      ofText? .decimal "-17014118346.0469231731687303715884105728" = some (decimal leastDecimal) ∧
      leastDecimal.WrittenAs "-17014118346.0469231731687303715884105728" ∧
      (decimal leastDecimal).text ≠ (decimal ⟨-2 ^ 127, 27, by decide⟩).text := by
  have written : leastDecimal.text = "-17014118346.0469231731687303715884105728" := rfl
  have made : Decimal.make (-2 ^ 127) 28 = .ok leastDecimal := rfl
  obtain ⟨read, faithful, decimals, _⟩ := text_determines
  obtain ⟨_, _, layout⟩ := decimals _ _ _ made
  refine ⟨written, (read _ _ _ (by decide) (by decide)).mpr ⟨rfl, written⟩, written ▸ layout, ?_⟩
  intro alike
  have equal := (faithful (decimal leastDecimal) (decimal ⟨-2 ^ 127, 27, by decide⟩) rfl (by decide) (by decide)).mp alike
  exact absurd equal (by decide)

end Literal
end EntityQuery
