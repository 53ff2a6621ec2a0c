import EntityModel.Proofs.Binary64.Rounding

/-!
# Rounded numbers

A descriptor has its numbers rounded to binary64. It makes no difference to what they decide:
rounding keeps all numbers below `2 ^ 53`, far above the thresholds of maximal lengths, and takes no
larger number below them (`Number.value_rounded`), so it changes neither a size class
(`SizeClass.ofMaxLength_map_rounded`) nor a sign (`Number.isNonNegative_rounded`).
-/

namespace EntityModel

namespace Number

theorem value_float_withSign (negative : Bool) (x : Binary64) :
    (float (x.withSign negative)).value = if negative then -x.magnitude else x.magnitude := rfl

/-- Rounding keeps a number, unless it is and stays large. -/
theorem value_rounded (n : Number) :
    n.rounded.value = n.value ∨ (2 ^ 53 ≤ n.value ∧ 2 ^ 53 ≤ n.rounded.value) ∨
      (n.value ≤ -2 ^ 53 ∧ n.rounded.value ≤ -2 ^ 53) := by
  cases n with
  | float x => exact .inl rfl
  | int m =>
    have hvalue : (int m).value = m := rfl
    cases hround : Binary64.ofNat m.natAbs with
    | none => exact .inl (by simp [rounded, toBinary64, hround])
    | some x =>
      have hrounded : (int m).rounded = float (x.withSign (m < 0)) := by
        simp [rounded, toBinary64, hround]
      have hsmall := Binary64.magnitude_ofNat_of_lt hround
      have hlarge := Binary64.le_magnitude_ofNat hround
      have hlarge' : 2 ^ 53 ≤ m.natAbs → (2 : ℚ) ^ 53 ≤ m.natAbs := fun h => by exact_mod_cast h
      rw [hrounded, value_float_withSign, hvalue]
      by_cases hneg : m < 0
      · have habs : ((m.natAbs : ℕ) : ℚ) = -m := by
          rw [Nat.cast_natAbs, abs_of_neg hneg, Int.cast_neg]
        rw [if_pos (decide_eq_true hneg)]
        rcases lt_or_ge m.natAbs (2 ^ 53) with hlt | hge
        · exact .inl (by rw [hsmall hlt, habs, neg_neg])
        · have hm := hlarge' hge
          have hx := hlarge hge
          rw [habs] at hm
          exact .inr (.inr ⟨by linarith, by linarith⟩)
      · have habs : ((m.natAbs : ℕ) : ℚ) = m := by
          rw [Nat.cast_natAbs, abs_of_nonneg (not_lt.1 hneg)]
        rw [if_neg (by simpa using hneg)]
        rcases lt_or_ge m.natAbs (2 ^ 53) with hlt | hge
        · exact .inl (by rw [hsmall hlt, habs])
        · have hm := hlarge' hge
          rw [habs] at hm
          exact .inr (.inl ⟨hm, hlarge hge⟩)

theorem exceeds_rounded {bound : Nat} (hbound : bound < 2 ^ 53) (n : Number) :
    n.rounded.exceeds bound = n.exceeds bound := by
  have hlow : (0 : ℚ) ≤ bound := Nat.cast_nonneg bound
  have hhigh : (bound : ℚ) < 2 ^ 53 := by exact_mod_cast hbound
  rw [Bool.eq_iff_iff, exceeds_iff, exceeds_iff]
  rcases n.value_rounded with heq | ⟨hn, hrounded⟩ | ⟨hn, hrounded⟩
  · rw [heq]
  · exact ⟨fun _ => by linarith, fun _ => by linarith⟩
  · exact ⟨fun h => by linarith, fun h => by linarith⟩

theorem isNonNegative_iff (n : Number) : n.isNonNegative = true ↔ 0 ≤ n.value := by
  cases n with
  | int m =>
    have hvalue : (int m).value = m := rfl
    rw [isNonNegative, decide_eq_true_iff, hvalue, Int.cast_nonneg_iff]
  | float x =>
    have hvalue : (float x).value = x.value := rfl
    rw [isNonNegative, hvalue, Binary64.value_eq, Binary64.isNonNegative]
    cases hsign : x.negative with
    | false => simpa using x.magnitude_nonneg
    | true =>
      -- of the negative numbers only zero is not below zero
      have hpow : (2 : ℚ) ^ x.exponent ≠ 0 := by positivity
      have hzero : x.magnitude = 0 ↔ x.mantissa = 0 := by
        simp [Binary64.magnitude, hpow]
      have hle : 0 ≤ -x.magnitude ↔ x.magnitude = 0 := by
        rw [neg_nonneg]
        exact ⟨fun h => le_antisymm h x.magnitude_nonneg, fun h => h.le⟩
      simpa using (hle.trans hzero).symm

theorem isNonNegative_rounded (n : Number) : n.rounded.isNonNegative = n.isNonNegative := by
  rw [Bool.eq_iff_iff, isNonNegative_iff, isNonNegative_iff]
  rcases n.value_rounded with heq | ⟨hn, hrounded⟩ | ⟨hn, hrounded⟩
  · rw [heq]
  · exact ⟨fun _ => by linarith, fun _ => by linarith⟩
  · exact ⟨fun h => by linarith, fun h => by linarith⟩

end Number

theorem SizeClass.ofMaxLength_map_rounded (maxLength : Option Number) :
    ofMaxLength (maxLength.map Number.rounded) = ofMaxLength maxLength := by
  cases maxLength with
  | none => rfl
  | some n =>
    have hexceeds {bound : Nat} (hbound : bound < 2 ^ 53) := n.exceeds_rounded hbound
    simp only [ofMaxLength, Option.map_some, Option.bind_some, ofExceeds]
    rw [hexceeds (by decide), hexceeds (by decide), hexceeds (by decide)]

end EntityModel
