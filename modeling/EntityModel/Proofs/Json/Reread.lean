import EntityModel.Proofs.Json.Layout
import EntityModel.Proofs.Json.Measure
import EntityModel.Proofs.Json.Numbers
import EntityModel.Proofs.Json.Strings

/-!
# Reading texts back

The text of a value whose numbers are bounded is read without any fault but one: the reader refuses
what nests too deep. Else it gives `Json.reread`, whatever the layout (`read_spell`).

The induction is on the value. Each step is a lemma that assumes as much of the parts as the
reader's fuel leaves to them: `ValueReads` for a value, `ItemsRead` and `FieldsRead` for what is
left of an array or object.
-/

namespace EntityModel.Json

mutual

/-- What is read from the text of a value. -/
def reread : Json → Json
  | .null => .null
  | .bool b => .bool b
  | .number n => .number n.reread
  | .string s => .string s
  | .array items => .array (rereadItems items)
  | .object fields => ofPairs (rereadFields fields)

def rereadItems : List Json → List Json
  | [] => []
  | item :: rest => item.reread :: rereadItems rest

def rereadFields : List (String × Json) → List (String × Json)
  | [] => []
  | (key, value) :: rest => (key, value.reread) :: rereadFields rest

end

namespace Reader

/-! ## Blanks -/

section Blanks

variable {c : Char} {blanks cs rest : List Char} (l : Layout) (level : Nat)

theorem skipBlanks_append (h : ∀ c ∈ blanks, Text.isJsonBlank c = true) :
    skipBlanks (blanks ++ cs) = skipBlanks cs :=
  List.dropWhile_append_of_pos h

theorem skipBlanks_cons (h : Text.isJsonBlank c = false) : skipBlanks (c :: cs) = c :: cs :=
  List.dropWhile_cons_of_neg (by simp [h])

theorem skipBlanks_gap : skipBlanks (l.gap level ++ cs) = skipBlanks cs :=
  skipBlanks_append (l.isJsonBlank_of_mem_gap level)

theorem value_afterColon {fuel : Nat} (depth : Nat) (hfuel : 0 < fuel) :
    value fuel depth (l.afterColon ++ cs) = value fuel depth cs := by
  obtain ⟨fuel, rfl⟩ := Nat.exists_eq_add_of_le' hfuel
  rw [value, value, skipBlanks_append l.isJsonBlank_of_mem_afterColon]

/-- No number goes on at a blank. -/
theorem ends_of_isJsonBlank (h : Text.isJsonBlank c = true) : Ends (c :: rest) := by
  simp only [Text.isJsonBlank, Bool.or_eq_true, beq_iff_eq] at h
  constructor <;>
  · rintro d ⟨⟩
    rcases h with ((rfl | rfl) | rfl) | rfl <;> decide

theorem ends_comma : Ends (',' :: rest) := by
  constructor <;> simp

theorem ends_gap (h : Ends cs) : Ends (l.gap level ++ cs) := by
  cases hgap : l.gap level with
  | nil => exact h
  | cons c blanks =>
    exact ends_of_isJsonBlank (l.isJsonBlank_of_mem_gap level c (hgap ▸ List.mem_cons_self))

theorem ends_bracket : Ends (']' :: rest) := by
  constructor <;> simp

theorem ends_brace : Ends ('\x7d' :: rest) := by
  constructor <;> simp

theorem ends_spellItems (items : List Json) :
    Ends (spellItems l level false items ++ ']' :: rest) := by
  cases items with
  | nil => exact ends_gap l level ends_bracket
  | cons item items => exact ends_comma

theorem ends_spellFields (fields : List (String × Json)) :
    Ends (spellFields l level false fields ++ '\x7d' :: rest) := by
  cases fields with
  | nil => exact ends_gap l level ends_brace
  | cons field fields => exact ends_comma

end Blanks

/-! ## Starts of values -/

/-- A text that starts with neither a blank nor the end of an array. -/
def Starts (cs : List Char) : Prop :=
  ∃ c rest, cs = c :: rest ∧ Text.isJsonBlank c = false ∧ c ≠ ']'

theorem Starts.append {cs : List Char} (h : Starts cs) (rest : List Char) :
    Starts (cs ++ rest) := by
  obtain ⟨c, tail, rfl, hc⟩ := h
  exact ⟨c, tail ++ rest, rfl, hc⟩

theorem Starts.length_pos {cs : List Char} (h : Starts cs) : 0 < cs.length := by
  obtain ⟨c, tail, rfl, -⟩ := h
  exact Nat.succ_pos _

theorem isJsonBlank_of_isDigit {c : Char} (h : c.isDigit = true) : Text.isJsonBlank c = false := by
  rw [Bool.eq_false_iff]
  intro hblank
  have hends : Ends [c] := ends_of_isJsonBlank hblank
  rw [hends.isDigit c rfl] at h
  cases h

theorem starts_spell (l : Layout) (level : Nat) {j : Json} (hnumbers : ∀ n ∈ j.numbers, n.Bounded) :
    Starts (spell l level j) := by
  cases j with
  | null => exact ⟨_, _, rfl, by decide, by decide⟩
  | bool b => cases b <;> exact ⟨_, _, rfl, by decide, by decide⟩
  | string s => exact ⟨_, _, rfl, by decide, by decide⟩
  | array items => exact ⟨_, _, rfl, by decide, by decide⟩
  | object fields => exact ⟨_, _, rfl, by decide, by decide⟩
  | number n =>
    have hsigned := Number.signed_text (hnumbers n List.mem_cons_self) Ends.nil
    rw [List.append_nil] at hsigned
    obtain ⟨c, rest, heq, hc⟩ := head_of_signed hsigned
    refine ⟨c, rest, heq, ?_⟩
    rcases hc with rfl | hc
    · decide
    · refine ⟨isJsonBlank_of_isDigit hc, ?_⟩
      rintro rfl
      exact absurd hc (by decide)

/-! ## Items and keys -/

section Next

variable (l : Layout) (level : Nat) (first : Bool) {cs rest : List Char}

theorem nextItem_more (h : Starts cs) :
    nextItem first ((if first then [] else [',']) ++ (l.gap level ++ cs)) = .ok (.more cs) := by
  obtain ⟨c, tail, rfl, hblank, hc⟩ := h
  have hskip : skipBlanks (l.gap level ++ c :: tail) = c :: tail := by
    rw [skipBlanks_gap, skipBlanks_cons hblank]
  cases first with
  | true =>
    rw [if_pos rfl, List.nil_append, nextItem, hskip]
    split
    next heq => cases heq
    next heq => exact absurd (List.cons.inj heq).1 hc
    next _ _ _ heq =>
      cases heq
      rfl
  | false =>
    have hcomma : skipBlanks (',' :: (l.gap level ++ c :: tail)) =
        ',' :: (l.gap level ++ c :: tail) := skipBlanks_cons (by decide)
    rw [if_neg Bool.false_ne_true, List.singleton_append, nextItem, hcomma]
    split
    next heq => cases heq
    next heq => exact absurd (List.cons.inj heq).1 (by decide)
    next _ _ _ heq =>
      cases heq
      rw [if_neg Bool.false_ne_true, if_pos rfl, hskip]
      split
      next heq => cases heq
      next heq => exact absurd (List.cons.inj heq).1 hc
      next => rfl

theorem nextItem_done :
    nextItem first ((if first then [] else l.gap level) ++ ']' :: rest) = .ok (.done rest) := by
  have hskip : skipBlanks ((if first then [] else l.gap level) ++ ']' :: rest) = ']' :: rest := by
    split
    · exact skipBlanks_cons (by decide)
    · rw [skipBlanks_gap, skipBlanks_cons (by decide)]
  rw [nextItem, hskip]
  rfl

theorem nextKey_more :
    nextKey first ((if first then [] else [',']) ++ (l.gap level ++ '"' :: cs)) =
      .ok (.more cs) := by
  have hskip : skipBlanks (l.gap level ++ '"' :: cs) = '"' :: cs := by
    rw [skipBlanks_gap, skipBlanks_cons (by decide)]
  cases first with
  | true =>
    rw [if_pos rfl, List.nil_append, nextKey, hskip]
    rfl
  | false =>
    have hcomma : skipBlanks (',' :: (l.gap level ++ '"' :: cs)) =
        ',' :: (l.gap level ++ '"' :: cs) := skipBlanks_cons (by decide)
    rw [if_neg Bool.false_ne_true, List.singleton_append, nextKey, hcomma]
    simp [hskip]

theorem nextKey_done :
    nextKey first ((if first then [] else l.gap level) ++ '\x7d' :: rest) = .ok (.done rest) := by
  have hskip : skipBlanks ((if first then [] else l.gap level) ++ '\x7d' :: rest) =
      '\x7d' :: rest := by
    split
    · exact skipBlanks_cons (by decide)
    · rw [skipBlanks_gap, skipBlanks_cons (by decide)]
  rw [nextKey, hskip]
  rfl

theorem colon_cons : colon (':' :: rest) = .ok rest := by
  rw [colon, skipBlanks_cons (by decide)]
  rfl

end Next

/-! ## Values -/

/-- A value is read back, or refused for its depth. -/
def ValueReads (l : Layout) (j : Json) : Prop :=
  ∀ level depth fuel rest, 2 * (spell l level j ++ rest).length < fuel → Ends rest →
    (∀ n ∈ j.numbers, n.Bounded) →
    (value fuel depth (spell l level j ++ rest)).mapError Stop.fault =
      if j.depth ≤ depth then .ok (j.reread, rest) else .error .recursionLimit

/-- The items up to the end of an array are read back, or refused for the depth of one of them. -/
def ItemsRead (l : Layout) (list : List Json) : Prop :=
  ∀ level depth fuel first rest,
    2 * (spellItems l level first list ++ ']' :: rest).length + 1 < fuel →
    (∀ n ∈ itemsNumbers list, n.Bounded) →
    (items fuel depth first (spellItems l level first list ++ ']' :: rest)).mapError Stop.fault =
      if itemsDepth list ≤ depth then .ok (rereadItems list, rest) else .error .recursionLimit

/-- The fields up to the end of an object are read back, or refused for the depth of one of them. -/
def FieldsRead (l : Layout) (pairs : List (String × Json)) : Prop :=
  ∀ level depth fuel first rest,
    2 * (spellFields l level first pairs ++ '\x7d' :: rest).length + 1 < fuel →
    (∀ n ∈ fieldsNumbers pairs, n.Bounded) →
    (fields fuel depth first (spellFields l level first pairs ++ '\x7d' :: rest)).mapError
        Stop.fault =
      if fieldsDepth pairs ≤ depth then .ok (rereadFields pairs, rest) else .error .recursionLimit

section Steps

variable {l : Layout} {j : Json}

theorem exists_fuel {n fuel : Nat} (h : n < fuel) : ∃ less, fuel = less + 1 ∧ n ≤ less := by
  cases fuel with
  | zero => exact absurd h (Nat.not_lt_zero n)
  | succ less => exact ⟨less, rfl, Nat.le_of_lt_succ h⟩

/-- A value that starts as a number does is read as one. -/
theorem value_of_signed {fuel depth : Nat} {cs rest : List Char} {n : Number}
    (h : signed cs = .ok (n, rest)) : value (fuel + 1) depth cs = .ok (.number n, rest) := by
  obtain ⟨c, tail, rfl, hc⟩ := head_of_signed h
  rcases hc with rfl | hc
  · have hnumber : number true tail = .ok (n, rest) := h
    rw [value, skipBlanks_cons (by decide)]
    simp [hnumber]
  · rw [signed_of_isDigit hc] at h
    rw [value, skipBlanks_cons (isJsonBlank_of_isDigit hc)]
    simp only
    split
    case h_8 => rw [if_pos hc, h, Except.ok_bind]
    all_goals exact absurd hc (by decide)

theorem valueReads_number (n : Number) : ValueReads l (.number n) := by
  intro level depth fuel rest hfuel hrest hnumbers
  obtain ⟨fuel, rfl, -⟩ := exists_fuel hfuel
  have hsigned := Number.signed_text (hnumbers n List.mem_cons_self) hrest
  rw [spell, value_of_signed hsigned, Except.mapError_ok]
  exact (if_pos (Nat.zero_le depth)).symm

theorem valueReads_string (s : String) : ValueReads l (.string s) := by
  intro level depth fuel rest hfuel hrest hnumbers
  obtain ⟨fuel, rfl, hfuel⟩ := exists_fuel hfuel
  have hlength := length_le_spellString s
  simp only [spell, List.cons_append, List.length_cons, List.length_append] at hfuel ⊢
  have hstring := string_spellString (by omega : s.toList.length < fuel) rest
  rw [value, skipBlanks_cons (by decide)]
  simp [hstring, Json.depth, reread]

theorem valueReads_array {list : List Json} (h : ItemsRead l list) :
    ValueReads l (.array list) := by
  intro level depth fuel rest hfuel hrest hnumbers
  obtain ⟨fuel, rfl, hfuel⟩ := exists_fuel hfuel
  simp only [spell, List.cons_append, List.append_assoc, List.nil_append, List.length_cons]
    at hfuel ⊢
  rw [value, skipBlanks_cons (by decide)]
  cases depth with
  | zero => rfl
  | succ depth =>
    simp only [Except.mapError_bind, h level depth fuel true rest (by omega) hnumbers, Json.depth,
      Nat.add_le_add_iff_right]
    split <;> rfl

theorem valueReads_object {pairs : List (String × Json)} (h : FieldsRead l pairs) :
    ValueReads l (.object pairs) := by
  intro level depth fuel rest hfuel hrest hnumbers
  obtain ⟨fuel, rfl, hfuel⟩ := exists_fuel hfuel
  simp only [spell, List.cons_append, List.append_assoc, List.nil_append, List.length_cons]
    at hfuel ⊢
  rw [value, skipBlanks_cons (by decide)]
  cases depth with
  | zero => rfl
  | succ depth =>
    simp only [Except.mapError_bind, h level depth fuel true rest (by omega) hnumbers, Json.depth,
      Nat.add_le_add_iff_right]
    split <;> rfl

theorem itemsRead_nil : ItemsRead l [] := by
  intro level depth fuel first rest hfuel hnumbers
  obtain ⟨fuel, rfl, -⟩ := exists_fuel hfuel
  rw [spellItems, items, nextItem_done]
  rfl

theorem itemsRead_cons {list : List Json} (h : ValueReads l j) (hrest : ItemsRead l list) :
    ItemsRead l (j :: list) := by
  intro level depth fuel first rest hfuel hnumbers
  obtain ⟨fuel, rfl, hfuel⟩ := exists_fuel hfuel
  have hbounded : ∀ n ∈ j.numbers, n.Bounded := fun n hn => hnumbers n (List.mem_append_left _ hn)
  have hstarts := starts_spell l (level + 1) hbounded
  have hpos := hstarts.length_pos
  simp only [spellItems, List.append_assoc, List.length_append, List.length_cons] at hfuel ⊢
  rw [items, nextItem_more l (level + 1) first (hstarts.append _), Except.ok_bind,
    Except.mapError_bind,
    h (level + 1) depth fuel _ (by simp; omega) (ends_spellItems l level list) hbounded]
  have hlist := hrest level depth fuel false rest (by simp; omega)
    fun n hn => hnumbers n (List.mem_append_right _ hn)
  simp only [itemsDepth, Nat.max_le]
  by_cases hdepth : j.depth ≤ depth
  · simp only [hdepth, if_true, Except.ok_bind, Except.mapError_bind, hlist, true_and]
    split <;> rfl
  · simp [hdepth]

theorem fieldsRead_nil : FieldsRead l [] := by
  intro level depth fuel first rest hfuel hnumbers
  obtain ⟨fuel, rfl, -⟩ := exists_fuel hfuel
  rw [spellFields, fields, nextKey_done]
  rfl

theorem fieldsRead_cons {key : String} {pairs : List (String × Json)} (h : ValueReads l j)
    (hrest : FieldsRead l pairs) : FieldsRead l ((key, j) :: pairs) := by
  intro level depth fuel first rest hfuel hnumbers
  obtain ⟨fuel, rfl, hfuel⟩ := exists_fuel hfuel
  have hbounded : ∀ n ∈ j.numbers, n.Bounded := fun n hn => hnumbers n (List.mem_append_left _ hn)
  have hlength := length_le_spellString key
  simp only [spellFields, List.append_assoc, List.cons_append, List.length_append,
    List.length_cons] at hfuel ⊢
  have hvalue := h (level + 1) depth fuel (spellFields l level false pairs ++ '\x7d' :: rest)
    (by simp; omega) (ends_spellFields l level pairs) hbounded
  have hpairs := hrest level depth fuel false rest (by simp; omega)
    fun n hn => hnumbers n (List.mem_append_right _ hn)
  rw [fields, nextKey_more, Except.ok_bind]
  simp only [string_spellString (by omega : key.toList.length < fuel), Except.ok_bind, colon_cons,
    value_afterColon l depth (by omega : 0 < fuel), Except.mapError_bind, hvalue, fieldsDepth,
    Nat.max_le]
  by_cases hdepth : j.depth ≤ depth
  · simp only [hdepth, if_true, Except.ok_bind, hpairs, true_and]
    split <;> rfl
  · simp [hdepth]

end Steps

mutual

theorem valueReads (l : Layout) : ∀ j : Json, ValueReads l j
  | .null => by
    intro level depth fuel rest hfuel hrest hnumbers
    obtain ⟨fuel, rfl, -⟩ := exists_fuel hfuel
    rfl
  | .bool true => by
    intro level depth fuel rest hfuel hrest hnumbers
    obtain ⟨fuel, rfl, -⟩ := exists_fuel hfuel
    rfl
  | .bool false => by
    intro level depth fuel rest hfuel hrest hnumbers
    obtain ⟨fuel, rfl, -⟩ := exists_fuel hfuel
    rfl
  | .number n => valueReads_number n
  | .string s => valueReads_string s
  | .array list => valueReads_array (itemsRead l list)
  | .object pairs => valueReads_object (fieldsRead l pairs)

theorem itemsRead (l : Layout) : ∀ list : List Json, ItemsRead l list
  | [] => itemsRead_nil
  | item :: rest => itemsRead_cons (valueReads l item) (itemsRead l rest)

theorem fieldsRead (l : Layout) : ∀ pairs : List (String × Json), FieldsRead l pairs
  | [] => fieldsRead_nil
  | (_, item) :: rest => fieldsRead_cons (valueReads l item) (fieldsRead l rest)

end

end Reader

/-- A line that holds the text of a value is read back as the value, or refused for its depth. -/
theorem read_spell (l : Layout) {j : Json} (hnumbers : ∀ n ∈ j.numbers, n.Bounded) {text : String}
    (htext : text.toList = spell l 0 j ++ ['\n']) :
    (read text).mapError Error.fault =
      if j.depth ≤ Reader.maxDepth then .ok j.reread else .error .recursionLimit := by
  have hvalue := Reader.valueReads l j 0 Reader.maxDepth (2 * text.toList.length + 2) ['\n']
    (by rw [htext]; omega) (Reader.ends_of_isJsonBlank (by decide)) hnumbers
  unfold read Reader.readWith
  rw [← htext] at hvalue
  cases hread : Reader.value (2 * text.toList.length + 2) Reader.maxDepth text.toList with
  | error stop =>
    rw [hread] at hvalue
    split at hvalue
    · cases hvalue
    · next hdepth =>
      have hfault : stop.fault = .recursionLimit := Except.error.inj hvalue
      rw [if_neg hdepth, ← hfault]
      rfl
  | ok result =>
    obtain ⟨value, rest⟩ := result
    rw [hread] at hvalue
    split at hvalue
    · next hdepth =>
      cases hvalue
      rw [if_pos hdepth]
      rfl
    · cases hvalue

end EntityModel.Json
