import Mathlib.Algebra.Order.Field.Power
import Mathlib.Algebra.Order.Field.Rat
import Mathlib.Tactic.Linarith
import Mathlib.Tactic.NormNum
import Mathlib.Tactic.Positivity
import EntityModel.Storage

/-!
# Size classes

The class of a text or blob depends on its maximal length as a number (`Number.value`), not on how
the number is written: the exact value is compared with the three thresholds
(`SizeClass.ofMaxLength_some`).
-/

namespace EntityModel

/-- The exact value `± mantissa * 2 ^ exponent`. -/
def Binary64.value (x : Binary64) : ℚ :=
  let magnitude : ℚ := x.mantissa * (2 : ℚ) ^ x.exponent
  if x.negative then -magnitude else magnitude

def Number.value : Number → ℚ
  | .int n => n
  | .float x => x.value

namespace Binary64

variable (x : Binary64)

theorem ratio_pos : 0 < x.ratio.2 := by
  unfold ratio
  split
  · exact Nat.one_pos
  · rw [Nat.shiftLeft_eq]
    positivity

theorem cast_ratio :
    (x.ratio.1 : ℚ) = x.mantissa * (2 : ℚ) ^ x.exponent * x.ratio.2 := by
  unfold ratio
  split
  · next hexponent =>
    have hpow : (2 : ℚ) ^ x.exponent = 2 ^ x.exponent.toNat := by
      rw [← zpow_natCast, Int.toNat_of_nonneg hexponent]
    rw [hpow, Nat.shiftLeft_eq]
    push_cast
    rw [mul_one]
  · next hexponent =>
    have hneg : ((-x.exponent).toNat : ℤ) = -x.exponent := Int.toNat_of_nonneg (by omega)
    have hpow : (2 : ℚ) ^ x.exponent * 2 ^ (-x.exponent).toNat = 1 := by
      rw [← zpow_natCast, hneg, ← zpow_add₀ (by norm_num), add_neg_cancel, zpow_zero]
    rw [Nat.shiftLeft_eq, one_mul]
    push_cast
    rw [mul_assoc, hpow, mul_one]

theorem exceeds_iff (n : Nat) : x.exceeds n = true ↔ (n : ℚ) < x.value := by
  have hmagnitude : (0 : ℚ) ≤ x.mantissa * (2 : ℚ) ^ x.exponent := by positivity
  have hden : (0 : ℚ) < x.ratio.2 := Nat.cast_pos.2 x.ratio_pos
  unfold exceeds value
  cases x.negative with
  | true =>
    have hn : (0 : ℚ) ≤ n := Nat.cast_nonneg n
    have hnot : ¬ (n : ℚ) < -(x.mantissa * (2 : ℚ) ^ x.exponent) :=
      not_lt.2 ((neg_nonpos.2 hmagnitude).trans hn)
    simpa using not_lt.1 hnot
  | false =>
    have hcompare : n * x.ratio.2 < x.ratio.1 ↔
        (n : ℚ) < x.mantissa * (2 : ℚ) ^ x.exponent := by
      rw [← Nat.cast_lt (α := ℚ), cast_ratio, Nat.cast_mul]
      exact mul_lt_mul_iff_left₀ hden
    simpa using hcompare

end Binary64

theorem Number.exceeds_iff (x : Number) (n : Nat) : x.exceeds n = true ↔ (n : ℚ) < x.value := by
  cases x with
  | int m =>
    have hvalue : (int m).value = m := rfl
    rw [exceeds, decide_eq_true_iff, hvalue]
    exact_mod_cast (Int.cast_lt (R := ℚ)).symm
  | float x => exact x.exceeds_iff n

namespace SizeClass

/-- A maximal length is compared with the thresholds by its value. -/
theorem ofMaxLength_some (x : Number) :
    ofMaxLength (some x) =
      if 5592415 < x.value then some .long
      else if 21845 < x.value then some .medium
      else if 255 < x.value then some .small
      else none := by
  have hthreshold : ∀ n : Nat, (x.exceeds n = true) = ((n : ℚ) < x.value) :=
    fun n => propext (x.exceeds_iff n)
  unfold ofMaxLength ofExceeds longThreshold mediumThreshold smallThreshold
  simp only [Option.bind_some, hthreshold]
  norm_cast

theorem ofMaxLength_eq_small_iff {maxLength : Option Number} :
    ofMaxLength maxLength = some .small ↔
      ∃ x, maxLength = some x ∧ 255 < x.value ∧ x.value ≤ 21845 := by
  cases maxLength with
  | none => simp [ofMaxLength]
  | some x =>
    rw [ofMaxLength_some]
    by_cases hlong : 5592415 < x.value
    · have hmedium : ¬ x.value ≤ 21845 := by linarith
      simp [hlong, hmedium]
    · by_cases hmedium : 21845 < x.value
      · simp [hlong, hmedium]
      · simp [hlong, hmedium, not_lt.1 hmedium]

end SizeClass

end EntityModel
