import EntityModel.Proofs.Text.StringLiteral
import EntityModel.Storage

/-!
# Literals of a table text

The literal of a value is its text between single quotes, for strings, arrays and objects, or a word
or number of plain characters, in which there is no quote and nothing that may follow a literal
(`Json.exists_enclosed_iff`, `Json.isPlainChar_of_literalText?`). So a literal ends by itself where
it stands in a table text (`Json.delimited_literal`).

MySQL takes a literal for the text it is made from exactly if that text has no backslash
(`Json.literal?_literal_iff`): the quotes in it are written twice, the backslashes are not.
-/

namespace EntityModel

/-! ## Numbers -/

/-- The characters of numbers: digits, signs, the point and the mark of the exponent. -/
def Number.isTextChar (c : Char) : Bool :=
  c.isDigit || c == '-' || c == '+' || c == '.' || c == 'e'

theorem Number.isTextChar_toDigits (n : Nat) :
    ∀ c ∈ Nat.toDigits 10 n, isTextChar c = true := by
  intro c hc
  have hdigit : c.isDigit = true := Nat.isDigit_of_mem_toDigits (by decide) (by decide) hc
  simp [isTextChar, hdigit]

theorem Decimal.isTextChar_exponentText (e : Int) :
    ∀ c ∈ exponentText e, Number.isTextChar c = true := by
  unfold exponentText
  rw [List.forall_mem_cons, List.forall_mem_cons]
  refine ⟨by decide, ?_, Number.isTextChar_toDigits _⟩
  split <;> decide

theorem Decimal.isTextChar_text (layout : Layout) (d : Decimal) :
    ∀ c ∈ d.text layout, Number.isTextChar c = true := by
  have hdigits : ∀ c ∈ d.digits, Number.isTextChar c = true := Number.isTextChar_toDigits _
  have hzeros (n : Nat) : ∀ c ∈ List.replicate n '0', Number.isTextChar c = true := by
    intro c hc
    rw [List.eq_of_mem_replicate hc]
    decide
  have hpoint : Number.isTextChar '.' = true := by decide
  have hzero : Number.isTextChar '0' = true := by decide
  unfold text
  dsimp only
  split
  · -- a whole number
    rw [List.forall_mem_append, List.forall_mem_append]
    exact ⟨⟨hdigits, hzeros _⟩, List.all_eq_true.1 (by decide)⟩
  split
  · -- a point among the digits
    rw [List.forall_mem_append, List.forall_mem_cons]
    exact ⟨fun c hc => hdigits c (List.mem_of_mem_take hc), hpoint,
      fun c hc => hdigits c (List.mem_of_mem_drop hc)⟩
  split
  · -- zeros behind the point
    rw [List.forall_mem_cons, List.forall_mem_cons, List.forall_mem_append]
    exact ⟨hzero, hpoint, hzeros _, hdigits⟩
  · -- an exponent
    cases hd : d.digits with
    | nil => exact List.forall_mem_nil _
    | cons first rest =>
      rw [hd, List.forall_mem_cons] at hdigits
      cases rest with
      | nil =>
        rw [List.forall_mem_cons]
        exact ⟨hdigits.1, isTextChar_exponentText _⟩
      | cons second rest =>
        dsimp only
        rw [List.cons_append, List.forall_mem_cons, List.cons_append, List.forall_mem_cons,
          List.forall_mem_append]
        exact ⟨hdigits.1, hpoint, hdigits.2, isTextChar_exponentText _⟩

theorem Binary64.isTextChar_text (x : Binary64) :
    ∀ c ∈ x.text.toList, Number.isTextChar c = true := by
  have hmagnitude : ∀ c ∈ (if x.mantissa = 0 then ['0', '.', '0']
      else x.shortest.text Decimal.documentLayout), Number.isTextChar c = true := by
    split
    · exact List.all_eq_true.1 (by decide)
    · exact Decimal.isTextChar_text _ _
  unfold text
  rw [String.toList_ofList]
  split
  · rw [List.forall_mem_cons]
    exact ⟨by decide, hmagnitude⟩
  · exact hmagnitude

theorem Number.isTextChar_text (n : Number) : ∀ c ∈ n.text.toList, isTextChar c = true := by
  cases n with
  | int n =>
    cases n with
    | ofNat k =>
      rw [toList_text_ofNat]
      exact isTextChar_toDigits k
    | negSucc k =>
      rw [toList_text_negSucc, List.forall_mem_cons]
      exact ⟨by decide, isTextChar_toDigits (k + 1)⟩
  | float x => exact x.isTextChar_text

namespace Json

/-! ## The two kinds of literals -/

/-- The text that a literal says between quotes: a string itself, or the compact text of an array
or object. -/
def literalText? : Json → Option String
  | .string s => some s
  | .array items => some (render (.array items))
  | .object fields => some (render (.object fields))
  | .null | .bool _ | .number _ => none

/-- The characters of the literals that stand without quotes: those of numbers and of `NULL`. -/
def isPlainChar (c : Char) : Bool := Number.isTextChar c || c == 'N' || c == 'U' || c == 'L'

theorem literal_of_literalText? {value : Json} {text : String}
    (h : value.literalText? = some text) : value.literal = Text.enclosed '\'' text := by
  cases value with
  | null | bool | number => cases h
  | string | array | object =>
    cases h
    rfl

theorem isPlainChar_of_literalText? {value : Json} (h : value.literalText? = none) :
    ∀ c ∈ value.literal.toList, isPlainChar c = true := by
  cases value with
  | null => exact List.all_eq_true.1 (by decide)
  | bool b => cases b <;> exact List.all_eq_true.1 (by decide)
  | number n =>
    intro c hc
    have hnumber := Number.isTextChar_text n c hc
    simp [isPlainChar, hnumber]
  | string | array | object => cases h

/-- The literals between quotes are those of strings, arrays and objects. -/
theorem exists_enclosed_iff (value : Json) :
    (∃ text, value.literal = Text.enclosed '\'' text) ↔ value.literalText?.isSome = true := by
  constructor
  · rintro ⟨text, htext⟩
    cases h : value.literalText? with
    | some other => rfl
    | none =>
      have hplain := isPlainChar_of_literalText? h '\'' (by simp [htext, Text.toList_enclosed])
      exact absurd hplain (by decide)
  · intro h
    obtain ⟨text, htext⟩ := Option.isSome_iff_exists.1 h
    exact ⟨text, literal_of_literalText? htext⟩

/-! ## Where a literal ends -/

/-- What may follow a literal is no part of one. -/
theorem not_isPlainChar_of_startsWith {r : List Char} (h : Text.StartsWith [",", ")", "\n"] r) :
    ∀ c ∈ r.head?, c ≠ '\'' ∧ isPlainChar c = false := by
  obtain ⟨front, hfront, rest, rfl⟩ := h
  simp only [List.mem_cons, List.not_mem_nil, or_false] at hfront
  rcases hfront with rfl | rfl | rfl <;> simp +decide

/-- What starts with a quote does not start with a literal of plain characters. -/
theorem enclosed_append_ne {text : String} {value : Json} (h : value.literalText? = none)
    {r s : List Char} (hs : Text.StartsWith [",", ")", "\n"] s) :
    (Text.enclosed '\'' text).toList ++ r ≠ value.literal.toList ++ s := by
  intro heq
  have hplain := isPlainChar_of_literalText? h
  rw [Text.toList_enclosed, List.cons_append, List.cons_append] at heq
  cases hliteral : value.literal.toList with
  | nil =>
    rw [hliteral, List.nil_append] at heq
    exact (not_isPlainChar_of_startsWith hs '\'' (by rw [← heq]; rfl)).1 rfl
  | cons c cs =>
    rw [hliteral, List.cons_append] at heq
    have hquote := hplain '\'' (by rw [hliteral, (List.cons.inj heq).1]; exact List.mem_cons_self)
    exact absurd hquote (by decide)

/-- A literal ends where a comma, a closing bracket or the end of the line follows. -/
theorem delimited_literal :
    Text.Delimited (fun value : Json => value.literal.toList) literal
      (Text.StartsWith [",", ")", "\n"]) := by
  intro v w r s hr hs heq
  dsimp only at heq
  cases hv : v.literalText? with
  | some text =>
    rw [literal_of_literalText? hv] at heq ⊢
    cases hw : w.literalText? with
    | some other =>
      rw [literal_of_literalText? hw] at heq ⊢
      have hquote := Text.delimited_enclosed '\''
        (fun c hc => (not_isPlainChar_of_startsWith hr c hc).1)
        (fun c hc => (not_isPlainChar_of_startsWith hs c hc).1) heq
      exact hquote.imp_left (congrArg (Text.enclosed '\''))
    | none => exact absurd heq (enclosed_append_ne hw hs)
  | none =>
    cases hw : w.literalText? with
    | some other =>
      rw [literal_of_literalText? hw] at heq
      exact absurd heq.symm (enclosed_append_ne hv hr)
    | none =>
      have hplain := Text.delimited_of_class
        (fun value : {value : Json // value.literalText? = none} => value.1.literal.toList)
        (fun value => isPlainChar_of_literalText? value.2)
      have hends := hplain (x := ⟨v, hv⟩) (y := ⟨w, hw⟩)
        (fun c hc => (not_isPlainChar_of_startsWith hr c hc).2)
        (fun c hc => (not_isPlainChar_of_startsWith hs c hc).2) heq
      exact hends.imp_left String.toList_inj.1

/-! ## What MySQL reads -/

/-- **When MySQL reads a literal as the text it is made from**: exactly if that text has no
backslash, whatever character an escape stands for. What stands behind the literal is then all that
is left. -/
theorem literal?_literal_iff (escaped : Char → Char) {value : Json} {text : String}
    (htext : value.literalText? = some text) {rest : List Char}
    (hrest : ∀ c ∈ rest.head?, c ≠ '\'') :
    Text.literal? escaped (value.literal.toList ++ rest) = some (text.toList, rest) ↔
      '\\' ∉ text.toList := by
  rw [literal_of_literalText? htext]
  exact Text.literal?_enclosed_iff escaped hrest

/-- An array with a quote in it, in front of a comma. -/
theorem literal?_literal_array :
    let value : Json := .array [.string "it's", .null]
    value.literalText? = some "[\"it's\",null]" ∧ (∀ c ∈ [',', '\n'].head?, c ≠ '\'') ∧
      Text.literal? id (value.literal.toList ++ [',', '\n']) =
        some ("[\"it's\",null]".toList, [',', '\n']) := by
  intro value
  have htext : value.literalText? = some "[\"it's\",null]" := by decide
  have hrest : ∀ c ∈ [',', '\n'].head?, c ≠ '\'' := by simp
  exact ⟨htext, hrest, (literal?_literal_iff id htext hrest).2 (by decide)⟩

/-- The backslash at the end of a string escapes the quote that closes its literal, so that the
literal goes on; one in front of a quote escapes the first of the two that stand for it, so that the
literal ends at the other one and the rest of the string is left over. -/
theorem backslash_breaks_literal :
    (string "C:\\").literal = "'C:\\'" ∧
      Text.literal? id ((string "C:\\").literal ++ ",\n").toList = none ∧
      Text.literal? id ((string "\\' OR 1").literal ++ ",\n").toList =
        some ("'".toList, " OR 1',\n".toList) := by
  decide

end Json

end EntityModel
