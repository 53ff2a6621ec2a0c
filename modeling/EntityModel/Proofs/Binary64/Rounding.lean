import EntityModel.Proofs.Storage.SizeClasses
import Mathlib.Tactic.GCongr
import Mathlib.Tactic.Ring
import Mathlib.Tactic.FieldSimp

/-!
# Rounding to binary64

What rounding a quotient of natural numbers gives, said of magnitudes: a number of the format
(`Binary64.WellFormed`) that is too large by at most half a unit of its last place
(`magnitude_le_of_ofRatio`), and nothing only from `Binary64.limit` on, half a unit above the
largest number (`exists_ofRatio`). A natural number below `2 ^ 53` is kept as it is, and from there
on a rounded one is no smaller (`magnitude_ofNat_of_lt`, `le_magnitude_ofNat`).
-/

namespace EntityModel

namespace Binary64

/-- The exact magnitude `mantissa * 2 ^ exponent`. -/
def magnitude (x : Binary64) : ℚ := x.mantissa * (2 : ℚ) ^ x.exponent

/-- The least magnitude that rounds beyond the largest number. -/
def limit : ℚ := (2 ^ 54 - 1) * (2 : ℚ) ^ (970 : ℤ)

/-- A mantissa of 53 bits and an exponent of the format. -/
structure WellFormed (x : Binary64) : Prop where
  mantissa_lt : x.mantissa < 2 ^ 53
  minExponent_le : minExponent ≤ x.exponent
  exponent_le : x.exponent ≤ maxExponent

section

variable (x : Binary64)

theorem magnitude_nonneg : 0 ≤ x.magnitude := by
  unfold magnitude
  positivity

theorem ratio_div : (x.ratio.1 : ℚ) / x.ratio.2 = x.magnitude := by
  have hden : (x.ratio.2 : ℚ) ≠ 0 := Nat.cast_ne_zero.2 x.ratio_pos.ne'
  rw [cast_ratio, mul_div_cancel_right₀ _ hden]
  rfl

theorem value_eq : x.value = if x.negative then -x.magnitude else x.magnitude := rfl

end

theorem limit_eq : limit = (2 ^ 53 - 1 / 2) * (2 : ℚ) ^ maxExponent := by
  have hpow : (2 : ℚ) ^ maxExponent = 2 ^ (970 : ℤ) * 2 := zpow_add_one₀ two_ne_zero 970
  rw [limit, hpow]
  ring

theorem WellFormed.magnitude_lt {x : Binary64} (h : x.WellFormed) : x.magnitude < limit := by
  have hmantissa : (x.mantissa : ℚ) + 1 ≤ 2 ^ 53 := by exact_mod_cast h.mantissa_lt
  have hpow : (2 : ℚ) ^ x.exponent ≤ 2 ^ maxExponent :=
    zpow_le_zpow_right₀ (by norm_num) h.exponent_le
  have hpos : (0 : ℚ) < 2 ^ maxExponent := by positivity
  rw [limit_eq]
  calc x.magnitude ≤ x.mantissa * (2 : ℚ) ^ maxExponent :=
        mul_le_mul_of_nonneg_left hpow (Nat.cast_nonneg _)
    _ < (2 ^ 53 - 1 / 2) * (2 : ℚ) ^ maxExponent := mul_lt_mul_of_pos_right (by linarith) hpos

/-! ## One rounding -/

section

variable (num den : Nat)

theorem le_roundDiv : num / den ≤ roundDiv num den := by
  unfold roundDiv
  dsimp only
  split
  · exact le_rfl
  · split <;> omega

theorem two_mul_roundDiv_le : 2 * (roundDiv num den * den) ≤ 2 * num + den := by
  have hdiv : num / den * den + num % den = num := Nat.div_add_mod' num den
  unfold roundDiv
  dsimp only
  split
  · omega
  · split
    · rw [Nat.add_mul]
      omega
    · have hodd : num / den % 2 * den ≤ 1 * den := Nat.mul_le_mul_right den (by omega)
      rw [Nat.add_mul]
      omega

@[simp] theorem roundDiv_one : roundDiv num 1 = num := by
  simp [roundDiv, Nat.mod_one]

variable {num den} (exponent : Int)

theorem rescale_pos (hden : 0 < den) : 0 < (rescale num den exponent).2 := by
  unfold rescale
  split
  · rw [Nat.shiftLeft_eq]
    positivity
  · exact hden

theorem rescale_div (hden : 0 < den) :
    ((rescale num den exponent).1 : ℚ) / (rescale num den exponent).2 =
      num / den / (2 : ℚ) ^ exponent := by
  have hden' : (den : ℚ) ≠ 0 := Nat.cast_ne_zero.2 hden.ne'
  unfold rescale
  split
  · next hexponent =>
    have hpow : (2 : ℚ) ^ exponent = 2 ^ exponent.toNat := by
      rw [← zpow_natCast, Int.toNat_of_nonneg hexponent]
    rw [hpow, Nat.shiftLeft_eq]
    push_cast
    rw [div_div]
  · next hexponent =>
    have hpow : (2 : ℚ) ^ exponent = (2 ^ (-exponent).toNat)⁻¹ := by
      rw [← zpow_natCast, Int.toNat_of_nonneg (by omega), ← zpow_neg, neg_neg]
    rw [hpow, Nat.shiftLeft_eq]
    push_cast
    rw [div_inv_eq_mul, div_mul_eq_mul_div]

theorem roundDiv_rescale_le (hden : 0 < den) :
    (roundDiv (rescale num den exponent).1 (rescale num den exponent).2 : ℚ) ≤
      num / den / (2 : ℚ) ^ exponent + 1 / 2 := by
  have hpos : (0 : ℚ) < (rescale num den exponent).2 := Nat.cast_pos.2 (rescale_pos exponent hden)
  rw [← rescale_div exponent hden]
  have htwo := two_mul_roundDiv_le (rescale num den exponent).1 (rescale num den exponent).2
  have hcast : (2 : ℚ) * (roundDiv (rescale num den exponent).1 (rescale num den exponent).2 *
      (rescale num den exponent).2) ≤
      2 * (rescale num den exponent).1 + (rescale num den exponent).2 := by exact_mod_cast htwo
  rw [div_add' _ _ _ hpos.ne', le_div_iff₀ hpos]
  linarith

theorem pow_le_roundDiv_rescale (hden : 0 < den) {k : Nat}
    (h : (2 : ℚ) ^ k * 2 ^ exponent ≤ num / den) :
    2 ^ k ≤ roundDiv (rescale num den exponent).1 (rescale num den exponent).2 := by
  have hpos : (0 : ℚ) < (rescale num den exponent).2 := Nat.cast_pos.2 (rescale_pos exponent hden)
  have hpow : (0 : ℚ) < (2 : ℚ) ^ exponent := by positivity
  have hquotient : (2 : ℚ) ^ k ≤ (rescale num den exponent).1 / (rescale num den exponent).2 := by
    rw [rescale_div exponent hden, le_div_iff₀ hpow]
    exact h
  rw [le_div_iff₀ hpos] at hquotient
  have hmul : 2 ^ k * (rescale num den exponent).2 ≤ (rescale num den exponent).1 := by
    exact_mod_cast hquotient
  exact ((Nat.le_div_iff_mul_le (rescale_pos exponent hden)).2 hmul).trans (le_roundDiv _ _)

end

/-! ## The exponent -/

section

variable {num den : Nat}

theorem div_lt_log2 (hden : 0 < den) :
    (num : ℚ) / den < 2 ^ 53 * (2 : ℚ) ^ ((num.log2 : Int) - den.log2 - 52) := by
  have hdenq : (0 : ℚ) < den := Nat.cast_pos.2 hden
  have hnumlt : (num : ℚ) < 2 ^ (num.log2 + 1) := by exact_mod_cast Nat.lt_log2_self
  have hdenle : (2 : ℚ) ^ den.log2 ≤ den := by exact_mod_cast Nat.log2_self_le hden.ne'
  rw [div_lt_iff₀ hdenq]
  calc (num : ℚ) < 2 ^ (num.log2 + 1) := hnumlt
    _ = 2 ^ 53 * (2 : ℚ) ^ ((num.log2 : Int) - den.log2 - 52) * 2 ^ den.log2 := by
        rw [← zpow_natCast, ← zpow_natCast, ← zpow_natCast, ← zpow_add₀ two_ne_zero,
          ← zpow_add₀ two_ne_zero]
        congr 1
        push_cast
        ring
    _ ≤ 2 ^ 53 * (2 : ℚ) ^ ((num.log2 : Int) - den.log2 - 52) * den := by gcongr

theorem log2_le_div (hnum : 0 < num) (hden : 0 < den) :
    2 ^ 51 * (2 : ℚ) ^ ((num.log2 : Int) - den.log2 - 52) ≤ (num : ℚ) / den := by
  have hdenq : (0 : ℚ) < den := Nat.cast_pos.2 hden
  have hnumle : (2 : ℚ) ^ num.log2 ≤ num := by exact_mod_cast Nat.log2_self_le hnum.ne'
  have hdenlt : (den : ℚ) ≤ 2 ^ (den.log2 + 1) := by exact_mod_cast Nat.lt_log2_self.le
  rw [le_div_iff₀ hdenq]
  calc 2 ^ 51 * (2 : ℚ) ^ ((num.log2 : Int) - den.log2 - 52) * den
      ≤ 2 ^ 51 * (2 : ℚ) ^ ((num.log2 : Int) - den.log2 - 52) * 2 ^ (den.log2 + 1) := by gcongr
    _ = 2 ^ num.log2 := by
        rw [← zpow_natCast, ← zpow_natCast, ← zpow_natCast, ← zpow_add₀ two_ne_zero,
          ← zpow_add₀ two_ne_zero]
        congr 1
        push_cast
        ring
    _ ≤ num := hnumle

theorem minExponent_le_scale : minExponent ≤ scale num den := le_max_left _ _

/-- At its exponent a quotient has at most 53 bits before the point, and no fewer unless the
exponent is the least one. -/
theorem scale_spec (hnum : 0 < num) (hden : 0 < den) :
    (num : ℚ) / den < 2 ^ 53 * (2 : ℚ) ^ scale num den ∧
      (scale num den = minExponent ∨ 2 ^ 52 * (2 : ℚ) ^ scale num den ≤ (num : ℚ) / den) := by
  generalize hguess : (num.log2 : Int) - den.log2 - 52 = guess
  have hlt : (num : ℚ) / den < 2 ^ 53 * (2 : ℚ) ^ guess := hguess ▸ div_lt_log2 hden
  have hle : 2 ^ 51 * (2 : ℚ) ^ guess ≤ (num : ℚ) / den := hguess ▸ log2_le_div hnum hden
  have hpow : (0 : ℚ) < (2 : ℚ) ^ guess := by positivity
  have hpos : (0 : ℚ) < (rescale num den guess).2 := Nat.cast_pos.2 (rescale_pos guess hden)
  -- the exponent before the least one is taken into account
  have hexact : ∀ e : Int, (num : ℚ) / den < 2 ^ 53 * (2 : ℚ) ^ e →
      2 ^ 52 * (2 : ℚ) ^ e ≤ (num : ℚ) / den →
      (num : ℚ) / den < 2 ^ 53 * (2 : ℚ) ^ max minExponent e ∧
        (max minExponent e = minExponent ∨
          2 ^ 52 * (2 : ℚ) ^ max minExponent e ≤ (num : ℚ) / den) := by
    intro e hbelow habove
    rcases max_cases minExponent e with ⟨hmax, hmin⟩ | ⟨hmax, -⟩
    · rw [hmax]
      refine ⟨hbelow.trans_le ?_, .inl rfl⟩
      gcongr
      norm_num
    · rw [hmax]
      exact ⟨hbelow, .inr habove⟩
  unfold scale
  rw [hguess]
  dsimp only
  split
  · next hsmall =>
    have hdiv : ¬ (1 <<< 52) * (rescale num den guess).2 ≤ (rescale num den guess).1 := fun h =>
      absurd ((Nat.le_div_iff_mul_le (rescale_pos guess hden)).2 h) (not_le.2 hsmall)
    have hquotient : (num : ℚ) / den < 2 ^ 52 * (2 : ℚ) ^ guess := by
      rw [← div_lt_iff₀ hpow, ← rescale_div guess hden, div_lt_iff₀ hpos]
      exact_mod_cast not_le.1 hdiv
    have hhalf : (2 : ℚ) ^ (guess - 1) = 2 ^ guess / 2 := by
      rw [zpow_sub₀ two_ne_zero, zpow_one]
    refine hexact (guess - 1) ?_ ?_ <;> rw [hhalf] <;> linarith
  · next hlarge =>
    refine hexact guess hlt ?_
    have hmul := (Nat.le_div_iff_mul_le (rescale_pos guess hden)).1 (not_lt.1 hlarge)
    rw [← le_div_iff₀ hpow, ← rescale_div guess hden, le_div_iff₀ hpos]
    exact_mod_cast hmul

end

/-! ## Rounded quotients -/

section

variable {negative : Bool} {num den : Nat} {x : Binary64}

/-- The mantissa of a rounded quotient, before a carry beyond 53 bits. -/
def roundedMantissa (num den : Nat) : Nat :=
  roundDiv (rescale num den (scale num den)).1 (rescale num den (scale num den)).2

theorem roundedMantissa_le_div (num : Nat) (hden : 0 < den) :
    (roundedMantissa num den : ℚ) ≤ num / den / (2 : ℚ) ^ scale num den + 1 / 2 :=
  roundDiv_rescale_le (scale num den) hden

theorem roundedMantissa_le (hnum : 0 < num) (hden : 0 < den) :
    roundedMantissa num den ≤ 2 ^ 53 := by
  have hpow : (0 : ℚ) < (2 : ℚ) ^ scale num den := by positivity
  have hlt : (num : ℚ) / den / 2 ^ scale num den < 2 ^ 53 :=
    (div_lt_iff₀ hpow).2 (scale_spec hnum hden).1
  have hcast : (roundedMantissa num den : ℚ) < 2 ^ 53 + 1 := by
    linarith [roundedMantissa_le_div num hden]
  have hnat : roundedMantissa num den < 2 ^ 53 + 1 := by exact_mod_cast hcast
  omega

theorem roundedMantissa_mul_le (num : Nat) (hden : 0 < den) :
    (roundedMantissa num den : ℚ) * 2 ^ scale num den ≤
      num / den + 1 / 2 * 2 ^ scale num den := by
  have hpow : (0 : ℚ) < (2 : ℚ) ^ scale num den := by positivity
  have hle := mul_le_mul_of_nonneg_right (roundedMantissa_le_div num hden) hpow.le
  rw [add_mul, div_mul_cancel₀ _ hpow.ne'] at hle
  exact hle

/-- A carry makes the mantissa a power of two and the exponent greater by one. -/
theorem ofRatio_eq (hnum : 0 < num) :
    ofRatio negative num den =
      if roundedMantissa num den = 2 ^ 53 then
        if maxExponent < scale num den + 1 then none
        else some ⟨negative, 2 ^ 52, scale num den + 1⟩
      else if maxExponent < scale num den then none
      else some ⟨negative, roundedMantissa num den, scale num den⟩ := by
  have hcarry : (1 <<< 53 : Nat) = 2 ^ 53 := by decide
  unfold ofRatio
  rw [if_neg hnum.ne']
  dsimp only
  rw [hcarry, ← roundedMantissa]
  by_cases h : roundedMantissa num den = 2 ^ 53
  · rw [if_pos h, if_pos h]
    rfl
  · rw [if_neg h, if_neg h]

theorem ofRatio_zero : ofRatio negative 0 den = some (zero negative) := rfl

theorem wellFormed_zero : (zero negative).WellFormed where
  mantissa_lt := Nat.two_pow_pos 53
  minExponent_le := le_refl minExponent
  exponent_le := (by decide : minExponent ≤ maxExponent)

@[simp] theorem magnitude_zero : (zero negative).magnitude = 0 := by
  simp [magnitude, zero]

/-- What a rounded quotient is. -/
theorem of_ofRatio (hnum : 0 < num) (hden : 0 < den) (h : ofRatio negative num den = some x) :
    x.WellFormed ∧ x.negative = negative ∧
      x.magnitude = roundedMantissa num den * 2 ^ scale num den := by
  rw [ofRatio_eq hnum] at h
  have hle := roundedMantissa_le hnum hden
  have hmin : minExponent ≤ scale num den := minExponent_le_scale
  split at h
  · next hcarry =>
    split at h
    · cases h
    · next hexponent =>
      cases h
      have hnext : minExponent ≤ scale num den + 1 := hmin.trans (Int.le_add_one le_rfl)
      refine ⟨⟨(by decide : 2 ^ 52 < 2 ^ 53), hnext, not_lt.1 hexponent⟩, rfl, ?_⟩
      have hpow : (2 : ℚ) ^ (scale num den + 1) = 2 ^ scale num den * 2 :=
        zpow_add_one₀ two_ne_zero _
      rw [magnitude, hpow, hcarry]
      push_cast
      ring
  · next hcarry =>
    split at h
    · cases h
    · next hexponent =>
      cases h
      exact ⟨⟨lt_of_le_of_ne hle hcarry, hmin, not_lt.1 hexponent⟩, rfl, rfl⟩

theorem wellFormed_of_ofRatio (hden : 0 < den) (h : ofRatio negative num den = some x) :
    x.WellFormed := by
  rcases Nat.eq_zero_or_pos num with rfl | hnum
  · rw [ofRatio_zero] at h
    cases h
    exact wellFormed_zero
  · exact (of_ofRatio hnum hden h).1

/-- Below the limit a quotient has a rounding. -/
theorem exists_ofRatio (hden : 0 < den) (hlimit : (num : ℚ) / den < limit) :
    ∃ x, ofRatio negative num den = some x ∧ x.WellFormed := by
  suffices hsome : ∃ x, ofRatio negative num den = some x by
    obtain ⟨x, hx⟩ := hsome
    exact ⟨x, hx, wellFormed_of_ofRatio hden hx⟩
  rcases Nat.eq_zero_or_pos num with rfl | hnum
  · exact ⟨_, ofRatio_zero⟩
  have hspec := (scale_spec hnum hden).2
  rw [limit_eq] at hlimit
  have hmax : (0 : ℚ) < 2 ^ maxExponent := by positivity
  -- a larger exponent would put the quotient beyond the limit
  have hle : scale num den ≤ maxExponent := by
    by_contra hlt
    have hlt : maxExponent + 1 ≤ scale num den := by omega
    rcases hspec with hmin | hspec
    · rw [hmin] at hlt
      exact absurd hlt (by decide)
    · have hpow : (2 : ℚ) ^ (maxExponent + 1) ≤ 2 ^ scale num den :=
        zpow_le_zpow_right₀ (by norm_num) hlt
      rw [zpow_add_one₀ two_ne_zero] at hpow
      linarith
  rw [ofRatio_eq hnum]
  split
  · next hcarry =>
    -- a carry at the greatest exponent, too
    have hne : scale num den ≠ maxExponent := by
      intro heq
      have hrounded := roundedMantissa_mul_le num hden
      rw [hcarry, heq] at hrounded
      push_cast at hrounded
      linarith
    rw [if_neg (by omega)]
    exact ⟨_, rfl⟩
  · rw [if_neg (by omega)]
    exact ⟨_, rfl⟩

/-- A rounded quotient that is not too small exceeds the quotient by at most half a unit of the
last place. -/
theorem magnitude_le_of_ofRatio (hden : 0 < den) (hone : (1 : ℚ) ≤ num / den)
    (h : ofRatio negative num den = some x) :
    x.magnitude ≤ num / den * (1 + 1 / 2 ^ 53) := by
  have hnum : 0 < num := by
    rcases Nat.eq_zero_or_pos num with rfl | hnum
    · norm_num at hone
    · exact hnum
  have hunit : 1 / 2 * (2 : ℚ) ^ scale num den ≤ num / den * (1 / 2 ^ 53) := by
    rcases (scale_spec hnum hden).2 with hmin | hspec
    · have hpow : (2 : ℚ) ^ scale num den ≤ 2 ^ (-52 : ℤ) := by
        rw [hmin]
        exact zpow_le_zpow_right₀ (by norm_num) (by decide)
      have hvalue : (2 : ℚ) ^ (-52 : ℤ) = 1 / 2 ^ 52 := by norm_num
      rw [hvalue] at hpow
      linarith
    · linarith
  rw [(of_ofRatio hnum hden h).2.2]
  linarith [roundedMantissa_mul_le num hden]

end

/-! ## Natural numbers -/

section

variable {n : Nat} {x : Binary64}

/-- A natural number of at most 53 bits is kept. -/
theorem magnitude_ofNat_of_lt (h : ofNat n = some x) (hsmall : n < 2 ^ 53) : x.magnitude = n := by
  rcases Nat.eq_zero_or_pos n with rfl | hn
  · obtain rfl : zero false = x := Option.some.inj h
    simp
  have hle : scale n 1 ≤ 0 := by
    rcases (scale_spec hn Nat.one_pos).2 with hmin | hspec
    · rw [hmin]
      decide
    · rw [Nat.cast_one, div_one] at hspec
      have hcast : (n : ℚ) < 2 ^ 53 := by exact_mod_cast hsmall
      have hpow : (2 : ℚ) ^ scale n 1 < 2 ^ (1 : ℤ) := by
        rw [zpow_one]
        linarith
      have := (zpow_lt_zpow_iff_right₀ (by norm_num)).1 hpow
      omega
  -- the number is only multiplied by a power of two, so that nothing is rounded
  have hexact : roundedMantissa n 1 = n * 2 ^ (-scale n 1).toNat := by
    unfold roundedMantissa rescale
    rcases hle.eq_or_lt with hzero | hneg
    · rw [hzero]
      simp
    · rw [if_neg (by omega), roundDiv_one, Nat.shiftLeft_eq]
  have hpow : (2 : ℚ) ^ (-scale n 1).toNat * 2 ^ scale n 1 = 1 := by
    rw [← zpow_natCast, Int.toNat_of_nonneg (by omega), ← zpow_add₀ two_ne_zero, neg_add_cancel,
      zpow_zero]
  rw [(of_ofRatio hn Nat.one_pos h).2.2, hexact]
  push_cast
  rw [mul_assoc, hpow, mul_one]

/-- A natural number of more bits does not become smaller than those of 53. -/
theorem le_magnitude_ofNat (h : ofNat n = some x) (hlarge : 2 ^ 53 ≤ n) :
    2 ^ 53 ≤ x.magnitude := by
  have hn : 0 < n := (Nat.two_pow_pos 53).trans_le hlarge
  obtain ⟨hlt, hspec⟩ := scale_spec hn Nat.one_pos
  rw [Nat.cast_one, div_one] at hlt hspec
  have hcast : (2 : ℚ) ^ 53 ≤ n := by exact_mod_cast hlarge
  have hle : 1 ≤ scale n 1 := by
    have hpow : (2 : ℚ) ^ (0 : ℤ) < 2 ^ scale n 1 := by
      rw [zpow_zero]
      linarith
    have := (zpow_lt_zpow_iff_right₀ (by norm_num)).1 hpow
    omega
  have hmantissa : 2 ^ 52 ≤ roundedMantissa n 1 := by
    rcases hspec with hmin | hspec
    · rw [hmin] at hle
      exact absurd hle (by decide)
    · exact pow_le_roundDiv_rescale _ Nat.one_pos (by simpa using hspec)
  have hmantissa : (2 : ℚ) ^ 52 ≤ roundedMantissa n 1 := by exact_mod_cast hmantissa
  have htwo : (2 : ℚ) ^ (1 : ℤ) ≤ 2 ^ scale n 1 := zpow_le_zpow_right₀ (by norm_num) hle
  rw [zpow_one] at htwo
  calc (2 : ℚ) ^ 53 = 2 ^ 52 * 2 := by norm_num
    _ ≤ (roundedMantissa n 1 : ℚ) * 2 ^ scale n 1 := by gcongr
    _ = x.magnitude := (of_ofRatio hn Nat.one_pos h).2.2.symm

end

end Binary64

end EntityModel
