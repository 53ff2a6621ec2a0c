import EntityModel.Json.Reader
import EntityModel.Proofs.Except
import EntityModel.Proofs.Json.Layout

/-!
# Reading strings back

Every character of a string is read back from the one to six characters that stand for it
(`stringBody_escapeChar`), so a string is read back from its text (`string_spellString`).
-/

namespace EntityModel.Json.Reader

theorem hexValue?_digitChar : ∀ d < 16, hexValue? (Nat.digitChar d) = some d := by decide

theorem hexUnit_hexByte {n : Nat} (h : n < 256) (rest : List Char) :
    hexUnit ('0' :: '0' :: hexByte n ++ rest) = .ok (n, rest) := by
  have hhigh := hexValue?_digitChar (n / 16) (by omega)
  have hlow := hexValue?_digitChar (n % 16) (by omega)
  have hzero : hexValue? '0' = some 0 := by decide
  simp only [hexByte, List.cons_append, List.nil_append, hexUnit, hzero, hhigh, hlow,
    Except.ok.injEq, Prod.mk.injEq, and_true]
  omega

/-- An escape is read as the character for which it stands. -/
theorem escape_of_lt {c : Char} (h : c.toNat < 0x20) (rest : List Char) :
    ∃ escaped, escapeChar c ++ rest = '\\' :: escaped ∧ escape escaped = .ok (c, rest) := by
  have hquote : c ≠ '"' := by
    rintro rfl
    exact absurd h (by decide)
  have hbackslash : c ≠ '\\' := by
    rintro rfl
    exact absurd h (by decide)
  have hc (n : Nat) (hn : c.toNat = n) : c = Char.ofNat n := by rw [← hn, Char.ofNat_toNat]
  unfold escapeChar
  rw [if_neg hquote, if_neg hbackslash, if_pos h]
  split
  next hn => exact ⟨_, rfl, by rw [hc _ hn]; rfl⟩
  next hn => exact ⟨_, rfl, by rw [hc _ hn]; rfl⟩
  next hn => exact ⟨_, rfl, by rw [hc _ hn]; rfl⟩
  next hn => exact ⟨_, rfl, by rw [hc _ hn]; rfl⟩
  next hn => exact ⟨_, rfl, by rw [hc _ hn]; rfl⟩
  next =>
    refine ⟨_, rfl, ?_⟩
    have hunit := hexUnit_hexByte (n := c.toNat) (by omega) rest
    have htrailing : isTrailing c.toNat = false := by simp [isTrailing]; omega
    have hleading : isLeading c.toNat = false := by simp [isLeading]; omega
    simp only [List.cons_append] at hunit ⊢
    simp [escape, hunit, htrailing, hleading]

theorem stringBody_escapeChar (fuel : Nat) (c : Char) (rest : List Char) :
    stringBody (fuel + 1) (escapeChar c ++ rest) =
      (do
        let (body, rest) ← stringBody fuel rest
        .ok (c :: body, rest)) := by
  by_cases hquote : c = '"'
  · subst hquote
    rfl
  by_cases hbackslash : c = '\\'
  · subst hbackslash
    rfl
  by_cases hcontrol : c.toNat < 0x20
  · obtain ⟨escaped, heq, hescape⟩ := escape_of_lt hcontrol rest
    rw [heq, stringBody, if_neg (by decide), if_pos rfl, hescape]
    rfl
  · have hself : escapeChar c = [c] := by
      unfold escapeChar
      rw [if_neg hquote, if_neg hbackslash, if_neg hcontrol]
    rw [hself, List.singleton_append, stringBody, if_neg hquote, if_neg hbackslash,
      if_neg hcontrol]

/-- A string is read back from its text. -/
theorem string_spellString {fuel : Nat} {s : String} (hfuel : s.toList.length < fuel)
    (rest : List Char) : string fuel (spellString s ++ rest) = .ok (s, rest) := by
  have hbody (cs : List Char) (fuel : Nat) (hfuel : cs.length < fuel) :
      stringBody fuel (cs.flatMap escapeChar ++ '"' :: rest) = .ok (cs, rest) := by
    induction cs generalizing fuel with
    | nil =>
      obtain ⟨fuel, rfl⟩ := Nat.exists_eq_add_of_lt hfuel
      rfl
    | cons c cs ih =>
      obtain ⟨fuel, rfl⟩ := Nat.exists_eq_add_of_le' (Nat.lt_of_le_of_lt (Nat.zero_le _) hfuel)
      rw [List.flatMap_cons, List.append_assoc, stringBody_escapeChar,
        ih fuel (by simpa using hfuel)]
      rfl
  unfold string spellString
  rw [List.append_assoc, List.singleton_append, hbody _ _ hfuel]
  simp

theorem length_le_spellString (s : String) : s.toList.length < (spellString s).length := by
  have hone (c : Char) : 1 ≤ (escapeChar c).length := by
    unfold escapeChar
    split
    · simp
    split
    · simp
    split
    · split <;> simp
    · simp
  have hall (cs : List Char) : cs.length ≤ (cs.flatMap escapeChar).length := by
    induction cs with
    | nil => simp
    | cons c cs ih =>
      rw [List.flatMap_cons, List.length_append, List.length_cons]
      have := hone c
      omega
  have := hall s.toList
  rw [spellString, List.length_append, List.length_singleton]
  omega

end EntityModel.Json.Reader
