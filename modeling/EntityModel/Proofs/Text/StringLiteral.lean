import EntityModel.Proofs.Text.Delimited

/-!
# String literals as MySQL reads them

MySQL ends a string literal at its first single quote that is neither written twice nor behind a
backslash, for a backslash escapes the character behind it. A text that was only enclosed in quotes
is therefore read back if and only if it has no backslash (`literal?_enclosed_iff`): an escape takes
more of the literal than the one character that it gives, so a reading with escapes that ends where
the literal ends is too short.
-/

namespace EntityModel.Text

variable (escaped : Char → Char)

/-- Reads a string literal behind its opening quote: the characters that it stands for, and what
follows the closing quote. A backslash and the character behind it stand for the character that
`escaped` gives. -/
def literalBody : List Char → Option (List Char × List Char)
  | [] => none
  | '\\' :: [] => none
  | '\\' :: c :: rest => (literalBody rest).map fun (body, rest) => (escaped c :: body, rest)
  | '\'' :: '\'' :: rest => (literalBody rest).map fun (body, rest) => ('\'' :: body, rest)
  | '\'' :: rest => some ([], rest)
  | c :: rest => (literalBody rest).map fun (body, rest) => (c :: body, rest)

/-- Reads a string literal at the start of a text. -/
def literal? : List Char → Option (List Char × List Char)
  | '\'' :: rest => literalBody escaped rest
  | _ => none

/-- Without a backslash, a text is read back from between its quotes. -/
theorem literalBody_doubled {cs rest : List Char} (hcs : '\\' ∉ cs)
    (hrest : ∀ c ∈ rest.head?, c ≠ '\'') :
    literalBody escaped (doubled '\'' cs ++ '\'' :: rest) = some (cs, rest) := by
  induction cs with
  | nil =>
    cases rest with
    | nil => simp [literalBody]
    | cons c rest => simp [literalBody, hrest c rfl]
  | cons c cs ih =>
    obtain ⟨hc, htail⟩ := not_or.1 (mt List.mem_cons.2 hcs)
    rw [doubled_cons]
    by_cases hquote : c = '\''
    · simp [literalBody, hquote, ih htail]
    · simp [literalBody, hquote, Ne.symm hc, ih htail]

/-! ## How much of a literal is read -/

/-- The extent of a text that counts a quote half, so that a quote written twice counts as one
character; twice that, to stay with whole numbers. -/
def extent : List Char → Nat
  | [] => 0
  | c :: cs => (if c = '\'' then 1 else 2) + extent cs

theorem extent_cons (c : Char) (cs : List Char) :
    extent (c :: cs) = (if c = '\'' then 1 else 2) + extent cs := rfl

theorem extent_append (cs ds : List Char) : extent (cs ++ ds) = extent cs + extent ds := by
  induction cs with
  | nil => exact (Nat.zero_add _).symm
  | cons c cs ih => rw [List.cons_append, extent_cons, extent_cons, ih, Nat.add_assoc]

theorem extent_doubled (cs : List Char) : extent (doubled '\'' cs) = 2 * cs.length := by
  induction cs with
  | nil => rfl
  | cons c cs ih =>
    have hone : extent (if c = '\'' then [c, c] else [c]) = 2 := by
      by_cases hc : c = '\''
      · rw [if_pos hc, hc]
        rfl
      · rw [if_neg hc, extent_cons, if_neg hc]
        rfl
    rw [doubled_cons, extent_append, ih, hone, List.length_cons]
    omega

/-- An escape takes more than the one character that it gives. -/
theorem lt_extent_escape (c : Char) (cs : List Char) :
    2 + extent cs < extent ('\\' :: c :: cs) := by
  rw [extent_cons, extent_cons, if_neg (by decide)]
  split <;> omega

theorem mem_doubled_iff {quote c : Char} {cs : List Char} : c ∈ doubled quote cs ↔ c ∈ cs := by
  induction cs with
  | nil => rfl
  | cons d cs ih =>
    rw [doubled_cons, List.mem_append, ih, List.mem_cons]
    split <;> simp

/-- A reading takes as much of the literal as it gives, and more if there is an escape. -/
theorem exists_of_literalBody {cs body rest : List Char}
    (h : literalBody escaped cs = some (body, rest)) :
    ∃ read, cs = read ++ rest ∧ 2 * body.length + 1 ≤ extent read ∧
      ('\\' ∈ read → 2 * body.length + 1 < extent read) := by
  fun_induction literalBody escaped cs generalizing body with
  | case1 => cases h
  | case2 => cases h
  | case3 c cs ih =>
    obtain ⟨⟨inner, _⟩, hinner, heq⟩ := Option.map_eq_some_iff.1 h
    cases heq
    obtain ⟨read, rfl, hle, -⟩ := ih hinner
    have hescape := lt_extent_escape c read
    have hlt : 2 * (escaped c :: inner).length + 1 < extent ('\\' :: c :: read) := by
      rw [List.length_cons]
      omega
    exact ⟨'\\' :: c :: read, rfl, Nat.le_of_lt hlt, fun _ => hlt⟩
  | case4 cs ih =>
    obtain ⟨⟨inner, _⟩, hinner, heq⟩ := Option.map_eq_some_iff.1 h
    cases heq
    obtain ⟨read, rfl, hle, hlt⟩ := ih hinner
    have hextent : extent ('\'' :: '\'' :: read) = 1 + (1 + extent read) := rfl
    refine ⟨'\'' :: '\'' :: read, rfl, ?_, fun hmem => ?_⟩
    · rw [hextent, List.length_cons]
      omega
    · have := hlt (by simpa using hmem)
      rw [hextent, List.length_cons]
      omega
  | case5 cs _ =>
    cases h
    exact ⟨['\''], rfl, by decide, by decide⟩
  | case6 c cs hlast hescape hpair hquote ih =>
    obtain ⟨⟨inner, _⟩, hinner, heq⟩ := Option.map_eq_some_iff.1 h
    cases heq
    obtain ⟨read, rfl, hle, hlt⟩ := ih hinner
    have hslash : '\\' ≠ c := by
      rintro rfl
      cases heq : read ++ rest with
      | nil => exact hlast rfl heq
      | cons d cs => exact hescape d cs rfl heq
    have hextent : extent (c :: read) = 2 + extent read := by
      rw [extent_cons, if_neg hquote]
    refine ⟨c :: read, rfl, ?_, fun hmem => ?_⟩
    · rw [hextent, List.length_cons]
      omega
    · have := hlt ((List.mem_cons.1 hmem).resolve_left hslash)
      rw [hextent, List.length_cons]
      omega

/-- **What is read of an enclosed text**: the text itself and then what stands behind it, if and
only if the text has no backslash, whatever the escapes stand for. -/
theorem literal?_enclosed_iff {s : String} {rest : List Char} (hrest : ∀ c ∈ rest.head?, c ≠ '\'') :
    literal? escaped ((enclosed '\'' s).toList ++ rest) = some (s.toList, rest) ↔
      '\\' ∉ s.toList := by
  have hliteral : literal? escaped ((enclosed '\'' s).toList ++ rest) =
      literalBody escaped (doubled '\'' s.toList ++ '\'' :: rest) := by
    simp [toList_enclosed, literal?]
  rw [hliteral]
  constructor
  · intro h hmem
    obtain ⟨read, heq, -, hlt⟩ := exists_of_literalBody escaped h
    have hread : read = doubled '\'' s.toList ++ ['\''] := by
      refine (List.append_left_inj rest).1 ?_
      rw [← heq, List.append_assoc, List.singleton_append]
    have hextent : extent read = 2 * s.toList.length + 1 := by
      rw [hread, extent_append, extent_doubled]
      rfl
    have := hlt (by rw [hread]; exact List.mem_append_left _ (mem_doubled_iff.2 hmem))
    omega
  · intro hmem
    exact literalBody_doubled escaped hmem hrest

end EntityModel.Text
