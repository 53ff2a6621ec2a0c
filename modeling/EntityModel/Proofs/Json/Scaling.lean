import EntityModel.Json.Reader
import EntityModel.Proofs.Binary64.Decimals

/-!
# Scaling by powers of ten

A number is read by rounding its digits and multiplying or dividing them by a power of ten, each
with a rounding of its own. Dividing never fails (`exists_divideByPower`). Multiplying may round a
decimal up beyond the largest number, but no printed one: it lies far enough below
(`exists_scaled?_shortest`), save that of the two largest numbers, which are tried out.
-/

namespace EntityModel.Json.Reader

open Binary64

/-! ## Powers of ten -/

theorem cast_limit : (((2 ^ 54 - 1) * 2 ^ 970 : Nat) : ℚ) = limit := by
  have hpow : (2 : ℚ) ^ (970 : ℤ) = 2 ^ 970 := zpow_natCast 2 970
  rw [limit, hpow, Nat.cast_mul, Nat.cast_pow, Nat.cast_sub (by decide), Nat.cast_pow]
  rfl

theorem pow_maxPower_lt_limit : (10 : ℚ) ^ maxPower < limit := by
  have hnat : 10 ^ maxPower < (2 ^ 54 - 1) * 2 ^ 970 := by decide +kernel
  have hcast := (Nat.cast_lt (α := ℚ)).2 hnat
  rwa [Nat.cast_pow, cast_limit] at hcast

theorem exists_ofNat {n : Nat} (h : (n : ℚ) < limit) :
    ∃ x, Binary64.ofNat n = some x ∧ x.WellFormed :=
  exists_ofRatio Nat.one_pos (by rwa [Nat.cast_one, div_one])

theorem one_le_magnitude_ofNat {n : Nat} {x : Binary64} (hn : 1 ≤ n)
    (h : Binary64.ofNat n = some x) : 1 ≤ x.magnitude := by
  rcases Nat.lt_or_ge n (2 ^ 53) with hlt | hge
  · rw [magnitude_ofNat_of_lt h hlt]
    exact_mod_cast hn
  · exact (by norm_num : (1 : ℚ) ≤ 2 ^ 53).trans (le_magnitude_ofNat h hge)

theorem magnitude_ofNat_le {n : Nat} {x : Binary64} (hn : 1 ≤ n) (h : Binary64.ofNat n = some x) :
    x.magnitude ≤ n * (1 + 1 / 2 ^ 53) := by
  have hone : (1 : ℚ) ≤ n / (1 : Nat) := by
    rw [Nat.cast_one, div_one]
    exact_mod_cast hn
  have hle := magnitude_le_of_ofRatio Nat.one_pos hone h
  rwa [Nat.cast_one, div_one] at hle

theorem mantissa_ne_zero {x : Binary64} (h : 1 ≤ x.magnitude) : x.mantissa ≠ 0 := by
  intro hzero
  rw [magnitude, hzero] at h
  norm_num at h

theorem one_le_tenPow (power : Nat) : 1 ≤ tenPow power := Nat.one_le_pow _ _ (by decide)

theorem cast_tenPow (power : Nat) : (tenPow power : ℚ) = 10 ^ power := by simp [tenPow]

/-- A power of ten is read as a number that is not below one, and hardly above it. -/
theorem exists_powerOfTen {power : Nat} (h : power ≤ maxPower) :
    ∃ y, powerOfTen power = some y ∧ 1 ≤ y.magnitude ∧
      y.magnitude ≤ (tenPow power : ℚ) * (1 + 1 / 2 ^ 53) := by
  have hlimit : (tenPow power : ℚ) < limit := by
    rw [cast_tenPow]
    exact (pow_le_pow_right₀ (by norm_num) h).trans_lt pow_maxPower_lt_limit
  obtain ⟨y, hy, -⟩ := exists_ofNat hlimit
  exact ⟨y, hy, one_le_magnitude_ofNat (one_le_tenPow power) hy,
    magnitude_ofNat_le (one_le_tenPow power) hy⟩

/-! ## Quotients and products -/

section

variable {x y : Binary64}

theorem ratio_num_pos (h : y.mantissa ≠ 0) : 0 < y.ratio.1 := by
  unfold ratio
  split
  · rw [Nat.shiftLeft_eq]
    exact Nat.mul_pos (Nat.pos_of_ne_zero h) (Nat.two_pow_pos _)
  · exact Nat.pos_of_ne_zero h

theorem exists_div (hx : x.WellFormed) (hy : 1 ≤ y.magnitude) :
    ∃ z, x.div y = some z ∧ z.WellFormed := by
  have hmantissa := mantissa_ne_zero hy
  unfold Binary64.div
  rw [if_neg hmantissa]
  apply exists_ofRatio (Nat.mul_pos x.ratio_pos (ratio_num_pos hmantissa))
  have hnum : (y.ratio.1 : ℚ) ≠ 0 := Nat.cast_ne_zero.2 (ratio_num_pos hmantissa).ne'
  have hquotient : ((x.ratio.1 * y.ratio.2 : Nat) : ℚ) / (x.ratio.2 * y.ratio.1 : Nat) =
      x.magnitude / y.magnitude := by
    rw [← ratio_div, ← ratio_div]
    push_cast
    field_simp
  rw [hquotient]
  exact (div_le_self x.magnitude_nonneg hy).trans_lt hx.magnitude_lt

theorem exists_mul (h : x.magnitude * y.magnitude < limit) :
    ∃ z, x.mul y = some z ∧ z.WellFormed := by
  apply exists_ofRatio (Nat.mul_pos x.ratio_pos y.ratio_pos)
  have hproduct : ((x.ratio.1 * y.ratio.1 : Nat) : ℚ) / (x.ratio.2 * y.ratio.2 : Nat) =
      x.magnitude * y.magnitude := by
    rw [← ratio_div, ← ratio_div]
    push_cast
    field_simp
  rwa [hproduct]

end

/-! ## Scaled numbers -/

theorem exists_div_powerOfTen {x : Binary64} (hx : x.WellFormed) {power : Nat}
    (h : power ≤ maxPower) :
    ∃ z, (powerOfTen power).bind x.div = some z ∧ z.WellFormed := by
  obtain ⟨y, hy, hone, -⟩ := exists_powerOfTen h
  rw [hy]
  exact exists_div hx hone

theorem exists_divideByPower (fuel : Nat) {x : Binary64} (hx : x.WellFormed) (power : Nat) :
    ∃ z, divideByPower fuel x power = some z ∧ z.WellFormed := by
  induction fuel generalizing x power with
  | zero => exact ⟨x, rfl, hx⟩
  | succ fuel ih =>
    rw [divideByPower]
    split
    next hpower => exact exists_div_powerOfTen hx hpower
    next =>
      split
      · exact ⟨x, rfl, hx⟩
      · obtain ⟨z, hz, hzwell⟩ := exists_div_powerOfTen hx (Nat.le_refl maxPower)
        rw [hz, Option.bind_some]
        exact ih hzwell _

variable {significand : Nat} {exponent : Int}

theorem exists_scaled?_of_neg (negative : Bool) (hlimit : (significand : ℚ) < limit)
    (h : exponent < 0) : ∃ z, scaled? negative significand exponent = some z := by
  obtain ⟨x, hx, hwell⟩ := exists_ofNat hlimit
  obtain ⟨z, hz, -⟩ := exists_divideByPower 4 hwell (-exponent).toNat
  unfold scaled?
  rw [hx, Option.bind_some, if_pos h, hz]
  exact ⟨_, rfl⟩

/-- Two roundings up do not carry a product beyond the limit. -/
theorem exists_scaled?_of_nonneg (negative : Bool) (hpos : 1 ≤ significand)
    (hlow : 0 ≤ exponent) (hhigh : exponent ≤ maxPower)
    (h : significand * (10 : ℚ) ^ exponent * (1 + 1 / 2 ^ 53) ^ 2 < limit) :
    ∃ z, scaled? negative significand exponent = some z := by
  have hpow : (10 : ℚ) ^ exponent = tenPow exponent.toNat := by
    rw [cast_tenPow, ← zpow_natCast, Int.toNat_of_nonneg hlow]
  have hone : (1 : ℚ) ≤ tenPow exponent.toNat := by exact_mod_cast one_le_tenPow _
  have hsignificand : (0 : ℚ) ≤ significand := Nat.cast_nonneg _
  rw [hpow] at h
  have hlimit : (significand : ℚ) < limit := by nlinarith
  obtain ⟨x, hx, -⟩ := exists_ofNat hlimit
  obtain ⟨y, hy, -, hyle⟩ := exists_powerOfTen (by omega : exponent.toNat ≤ maxPower)
  have hproduct : x.magnitude * y.magnitude < limit := by
    calc x.magnitude * y.magnitude
        ≤ significand * (1 + 1 / 2 ^ 53) * (tenPow exponent.toNat * (1 + 1 / 2 ^ 53)) :=
          mul_le_mul (magnitude_ofNat_le hpos hx) hyle y.magnitude_nonneg (by positivity)
      _ = significand * tenPow exponent.toNat * (1 + 1 / 2 ^ 53) ^ 2 := by ring
      _ < limit := h
  obtain ⟨z, hz, -⟩ := exists_mul hproduct
  unfold scaled?
  rw [hx, Option.bind_some, if_neg (by omega), if_pos (by simpa using hhigh), hy,
    Option.bind_some, hz]
  exact ⟨_, rfl⟩

/-! ## Printed numbers -/

/-- Half a unit above a number and two roundings up stay below the limit, unless the number is one
of the two largest. -/
theorem rounded_twice_lt_limit {x : Binary64} (h : x.WellFormed)
    (hsmall : x.mantissa ≤ 2 ^ 53 - 3 ∨ x.exponent < Binary64.maxExponent) :
    (x.mantissa + 1 / 2) * (2 : ℚ) ^ x.exponent * (1 + 1 / 2 ^ 53) ^ 2 < limit := by
  have hpos : (0 : ℚ) < 2 ^ Binary64.maxExponent := by positivity
  have hlast : (2 : ℚ) ^ (Binary64.maxExponent - 1) = 2 ^ Binary64.maxExponent / 2 := by
    rw [zpow_sub_one₀ two_ne_zero, div_eq_mul_inv]
  have hexponent : (2 : ℚ) ^ x.exponent ≤ 2 ^ Binary64.maxExponent :=
    zpow_le_zpow_right₀ (by norm_num) h.exponent_le
  rw [limit_eq]
  rcases hsmall with hmantissa | hless
  · have hmantissa : (x.mantissa : ℚ) + 3 ≤ 2 ^ 53 := by
      exact_mod_cast (by omega : x.mantissa + 3 ≤ 2 ^ 53)
    generalize (2 : ℚ) ^ Binary64.maxExponent = top at *
    calc (x.mantissa + 1 / 2) * (2 : ℚ) ^ x.exponent * (1 + 1 / 2 ^ 53) ^ 2
        ≤ (2 ^ 53 - 5 / 2) * top * (1 + 1 / 2 ^ 53) ^ 2 := by
          gcongr
          linarith
      _ = (2 ^ 53 - 5 / 2) * (1 + 1 / 2 ^ 53) ^ 2 * top := by ring
      _ < (2 ^ 53 - 1 / 2) * top := mul_lt_mul_of_pos_right (by norm_num) hpos
  · have hmantissa : (x.mantissa : ℚ) ≤ 2 ^ 53 := by exact_mod_cast h.mantissa_lt.le
    have hhalf : (2 : ℚ) ^ x.exponent ≤ 2 ^ (Binary64.maxExponent - 1) :=
      zpow_le_zpow_right₀ (by norm_num) (by omega)
    rw [hlast] at hhalf
    generalize (2 : ℚ) ^ Binary64.maxExponent = top at *
    calc (x.mantissa + 1 / 2) * (2 : ℚ) ^ x.exponent * (1 + 1 / 2 ^ 53) ^ 2
        ≤ (2 ^ 53 + 1 / 2) * (top / 2) * (1 + 1 / 2 ^ 53) ^ 2 := by gcongr
      _ = (2 ^ 53 + 1 / 2) / 2 * (1 + 1 / 2 ^ 53) ^ 2 * top := by ring
      _ < (2 ^ 53 - 1 / 2) * top := mul_lt_mul_of_pos_right (by norm_num) hpos

theorem scaled?_shortest_largest : ∀ a b : Bool, ∀ m ∈ [2 ^ 53 - 1, 2 ^ 53 - 2],
    (scaled? a (shortest ⟨b, m, Binary64.maxExponent⟩).coefficient
      (shortest ⟨b, m, Binary64.maxExponent⟩).exponent).isSome := by
  decide +kernel

theorem limit_lt_pow : limit < (10 : ℚ) ^ (maxPower + 1) := by
  have hnat : (2 ^ 54 - 1) * 2 ^ 970 < 10 ^ (maxPower + 1) := by decide +kernel
  have hcast := (Nat.cast_lt (α := ℚ)).2 hnat
  rwa [Nat.cast_pow, cast_limit] at hcast

/-- The decimal that is printed for a number is read as a number. -/
theorem exists_scaled?_shortest (negative : Bool) {x : Binary64} (h : x.WellFormed)
    (hx : x.mantissa ≠ 0) :
    ∃ z, scaled? negative x.shortest.coefficient x.shortest.exponent = some z := by
  obtain ⟨hpos, hle, -, -, hvalue⟩ := prints_shortest h hx
  have hcoefficient : (1 : ℚ) ≤ x.shortest.coefficient := by exact_mod_cast hpos
  have hlimit : (10 : ℚ) ^ 17 * (1 + 1 / 2 ^ 53) ^ 2 < limit :=
    lt_trans (by norm_num : (10 : ℚ) ^ 17 * (1 + 1 / 2 ^ 53) ^ 2 < 10 ^ 18)
      ((pow_le_pow_right₀ (by norm_num) (by decide)).trans_lt pow_maxPower_lt_limit)
  have hle : (x.shortest.coefficient : ℚ) ≤ 10 ^ 17 := by exact_mod_cast hle
  rcases lt_trichotomy x.shortest.exponent 0 with hneg | hzero | hexponent
  · apply exists_scaled?_of_neg negative _ hneg
    linarith
  · rw [hzero]
    apply exists_scaled?_of_nonneg negative hpos le_rfl (by decide)
    rw [zpow_zero, mul_one]
    nlinarith
  · have hvalue := hvalue hexponent
    by_cases hsmall : x.mantissa ≤ 2 ^ 53 - 3 ∨ x.exponent < Binary64.maxExponent
    · unfold Decimal.value at hvalue
      have htwice : x.shortest.coefficient * (10 : ℚ) ^ x.shortest.exponent *
          (1 + 1 / 2 ^ 53) ^ 2 < limit :=
        (mul_le_mul_of_nonneg_right hvalue (by positivity)).trans_lt
          (rounded_twice_lt_limit h hsmall)
      have hpower : (10 : ℚ) ^ x.shortest.exponent < 10 ^ ((maxPower + 1 : Nat) : Int) := by
        rw [zpow_natCast]
        have hpow : (0 : ℚ) < 10 ^ x.shortest.exponent := by positivity
        refine lt_trans ?_ limit_lt_pow
        generalize (10 : ℚ) ^ x.shortest.exponent = p at *
        nlinarith
      have hexponent' := (zpow_lt_zpow_iff_right₀ (by norm_num)).1 hpower
      apply exists_scaled?_of_nonneg negative hpos hexponent.le _ htwice
      push_cast at hexponent'
      omega
    · -- one of the two largest numbers
      obtain ⟨b, m, e⟩ := x
      simp only [not_or, not_le, not_lt] at hsmall
      have he : e = Binary64.maxExponent := le_antisymm h.exponent_le hsmall.2
      have hm : m ∈ [2 ^ 53 - 1, 2 ^ 53 - 2] := by
        have hlow : 2 ^ 53 - 3 < m := hsmall.1
        have hhigh : m < 2 ^ 53 := h.mantissa_lt
        simp only [List.mem_cons, List.not_mem_nil, or_false]
        omega
      rw [he]
      exact Option.isSome_iff_exists.1 (scaled?_shortest_largest negative b m hm)

end EntityModel.Json.Reader
