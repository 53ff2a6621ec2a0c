import EntityModel.Binary64.Shortest
import EntityModel.Proofs.Binary64.Rounding

/-!
# The printed decimal

What is known of the decimal that stands for a number in a text: its coefficient is at most
`10 ^ 17`, its exponent is neither very large nor very small, and one with a positive exponent
exceeds the number by half a unit of the last place at most (`prints_shortest`).
-/

namespace EntityModel

/-- The exact value `coefficient * 10 ^ exponent`. -/
def Decimal.value (d : Decimal) : ℚ := d.coefficient * (10 : ℚ) ^ d.exponent

namespace Binary64

/-! ## Powers of ten beside powers of two -/

theorem zpow_mul_pow_toNat {a : ℚ} (ha : a ≠ 0) (n : Int) :
    a ^ n * a ^ (-n).toNat = a ^ n.toNat := by
  rw [← zpow_natCast a n.toNat, ← zpow_natCast a (-n).toNat, ← zpow_add₀ ha]
  congr 1
  omega

theorem align_pos (p q : Int) : 0 < (align p q).1 ∧ 0 < (align p q).2 := by
  have hten (k : Nat) : 0 < tenPow k := Nat.pow_pos (by decide)
  simp only [align, Nat.shiftLeft_eq]
  exact ⟨Nat.mul_pos (hten _) (Nat.two_pow_pos _), Nat.mul_pos (hten _) (Nat.two_pow_pos _)⟩

theorem cast_align (p q : Int) :
    ((align p q).1 : ℚ) * 2 ^ q = (align p q).2 * (10 : ℚ) ^ p := by
  have htwo := zpow_mul_pow_toNat (two_ne_zero (α := ℚ)) q
  have hten := zpow_mul_pow_toNat (by norm_num : (10 : ℚ) ≠ 0) p
  simp only [align, Nat.shiftLeft_eq, tenPow, Nat.pow_eq]
  push_cast
  rw [← htwo, ← hten]
  ring

/-- The comparison that aligned powers decide. -/
theorem align_le_iff (a b : Nat) (p q : Int) :
    a * (align p q).1 ≤ b * (align p q).2 ↔ (a : ℚ) * 10 ^ p ≤ b * (2 : ℚ) ^ q := by
  have htwo : (0 : ℚ) < (align p q).2 := Nat.cast_pos.2 (align_pos p q).2
  have hpow : (0 : ℚ) < 2 ^ q := by positivity
  have hleft : ((a * (align p q).1 : Nat) : ℚ) * 2 ^ q = a * 10 ^ p * (align p q).2 := by
    rw [Nat.cast_mul, mul_assoc, cast_align]
    ring
  have hright : ((b * (align p q).2 : Nat) : ℚ) * 2 ^ q = b * 2 ^ q * (align p q).2 := by
    push_cast
    ring
  rw [← Nat.cast_le (α := ℚ), ← mul_le_mul_iff_of_pos_right hpow, hleft, hright,
    mul_le_mul_iff_of_pos_right htwo]

/-! ## The place of the first digit -/

section DecimalExponent

/-- Five decimal digits of the logarithm of two suffice for every exponent of the format. -/
theorem align_estimate : ∀ k : Nat, k < 2098 →
    (align (((k : Int) - 1074) * 30103 / 100000 + 2) ((k : Int) - 1073)).2 ≤
      (align (((k : Int) - 1074) * 30103 / 100000 + 2) ((k : Int) - 1073)).1 := by
  decide +kernel

theorem zpow_two_le_estimate {n : Int} (hmin : -1074 ≤ n) (hmax : n ≤ 1023) :
    (2 : ℚ) ^ (n + 1) ≤ 10 ^ (n * 30103 / 100000 + 2) := by
  have hestimate := align_estimate (n + 1074).toNat (by omega)
  have hn : (((n + 1074).toNat : Nat) : Int) = n + 1074 := Int.toNat_of_nonneg (by omega)
  have hlow : n + 1074 - 1074 = n := by omega
  have hhigh : n + 1074 - 1073 = n + 1 := by omega
  rw [hn, hlow, hhigh] at hestimate
  have hcast := cast_align (n * 30103 / 100000 + 2) (n + 1)
  have htwo : (0 : ℚ) < (align (n * 30103 / 100000 + 2) (n + 1)).2 :=
    Nat.cast_pos.2 (align_pos _ _).2
  have hpow : (0 : ℚ) < 2 ^ (n + 1) := by positivity
  have hle := mul_le_mul_of_nonneg_right (Nat.cast_le (α := ℚ).2 hestimate) hpow.le
  rw [hcast] at hle
  exact le_of_mul_le_mul_left hle htwo

theorem magnitude_lt_zpow (x : Binary64) :
    x.magnitude < (2 : ℚ) ^ ((x.mantissa.log2 : Int) + x.exponent + 1) := by
  have hmantissa : (x.mantissa : ℚ) < 2 ^ (x.mantissa.log2 + 1) := by
    exact_mod_cast Nat.lt_log2_self
  have hpow : (0 : ℚ) < 2 ^ x.exponent := by positivity
  have hexponent : (x.mantissa.log2 : Int) + x.exponent + 1 =
      ((x.mantissa.log2 + 1 : Nat) : Int) + x.exponent := by
    push_cast
    ring
  rw [hexponent, zpow_add₀ two_ne_zero, zpow_natCast]
  exact mul_lt_mul_of_pos_right hmantissa hpow

variable {x : Binary64} (h : x.WellFormed) (hx : x.mantissa ≠ 0)
include h hx

theorem log2_mantissa_le : x.mantissa.log2 ≤ 52 :=
  Nat.le_of_lt_succ ((Nat.log2_lt hx).2 h.mantissa_lt)

/-- The magnitude has no digit in front of the one that is taken for the first. -/
theorem decimalExponent_spec :
    x.magnitude < (10 : ℚ) ^ (x.decimalExponent + 1) ∧
      -326 ≤ x.decimalExponent ∧ x.decimalExponent ≤ 309 := by
  have hlog := log2_mantissa_le h hx
  have hlow : -1074 ≤ (x.mantissa.log2 : Int) + x.exponent := by
    have : (-1074 : Int) ≤ x.exponent := h.minExponent_le
    omega
  have hhigh : (x.mantissa.log2 : Int) + x.exponent ≤ 1023 := by
    have : x.exponent ≤ (971 : Int) := h.exponent_le
    omega
  have hestimate := (magnitude_lt_zpow x).trans_le (zpow_two_le_estimate hlow hhigh)
  have hunreached (k : Int) (hk : ¬ (align k x.exponent).1 ≤ x.mantissa * (align k x.exponent).2) :
      x.magnitude < (10 : ℚ) ^ k := by
    have hiff := align_le_iff 1 x.mantissa k x.exponent
    rw [Nat.one_mul, Nat.cast_one, one_mul] at hiff
    exact lt_of_not_ge fun hle => hk (hiff.2 hle)
  unfold decimalExponent
  dsimp only
  split
  next hreached => exact ⟨by simpa [add_assoc] using hestimate, by omega, by omega⟩
  next hnext =>
    split
    next hreached => exact ⟨hunreached _ (by simpa using hnext), by omega, by omega⟩
    next hfirst =>
      refine ⟨?_, by omega, by omega⟩
      rw [sub_add_cancel]
      exact hunreached _ (by simpa using hfirst)

end DecimalExponent

/-! ## The decimal -/

/-- A decimal that is one of the two neighbours of a number on a grid, and rounds to it. -/
structure Rounds (x : Binary64) (count : Nat) (d : Decimal) : Prop where
  exponent_eq : d.exponent = x.decimalExponent - count + 1
  le_above : d.coefficient ≤ 4 * x.mantissa * (align d.exponent (x.exponent - 2)).2 /
    (align d.exponent (x.exponent - 2)).1 + 1
  low_le : (4 * x.mantissa - 2) * (align d.exponent (x.exponent - 2)).2 ≤
    d.coefficient * (align d.exponent (x.exponent - 2)).1
  le_high : d.coefficient * (align d.exponent (x.exponent - 2)).1 ≤
    (4 * x.mantissa + 2) * (align d.exponent (x.exponent - 2)).2

variable {x : Binary64} {d : Decimal} {count : Nat}

theorem rounds_of_decimal? (hd : x.decimal? count = some d) : Rounds x count d := by
  unfold decimal? at hd
  extract_lets exponent middle low high at hd
  have hlow : 4 * x.mantissa - 2 ≤ low := by
    unfold low middle
    split <;> omega
  split at hd
  next ten two halign =>
    extract_lets rounds below above at hd
    have hrounds (c : Nat) (hc : rounds c = true) :
        (4 * x.mantissa - 2) * two ≤ c * ten ∧ c * ten ≤ (4 * x.mantissa + 2) * two := by
      have hle := Nat.mul_le_mul_right two hlow
      unfold rounds at hc
      split at hc
      · have := of_decide_eq_true hc
        exact ⟨hle.trans this.1, this.2⟩
      · have := of_decide_eq_true hc
        exact ⟨hle.trans this.1.le, this.2.le⟩
    have hfound (c : Nat) (hc : rounds c = true) (hle : c ≤ below + 1)
        (hd : some ⟨c, exponent⟩ = some d) : Rounds x count d := by
      cases hd
      constructor
      · rfl
      all_goals rw [halign]
      · exact hle
      · exact (hrounds c hc).1
      · exact (hrounds c hc).2
    split at hd
    next hbelow habove =>
      split at hd
      · exact hfound below hbelow (Nat.le_succ _) hd
      · exact hfound above habove le_rfl hd
    next hbelow _ => exact hfound below hbelow (Nat.le_succ _) hd
    next _ habove => exact hfound above habove le_rfl hd
    next => cases hd

/-- The unit in which the coefficient is compared is a quarter of that of the mantissa. -/
theorem zpow_sub_two (n : Int) : (2 : ℚ) ^ (n - 2) = 2 ^ n / 4 := by
  rw [zpow_sub₀ two_ne_zero]
  norm_num

namespace Rounds

variable (h : Rounds x count d)
include h

theorem coefficient_pos (hx : x.mantissa ≠ 0) : 0 < d.coefficient := by
  have htwo := (align_pos d.exponent (x.exponent - 2)).2
  have hlow : 0 < (4 * x.mantissa - 2) * (align d.exponent (x.exponent - 2)).2 :=
    Nat.mul_pos (by omega) htwo
  exact Nat.pos_of_mul_pos_right (hlow.trans_le h.low_le)

theorem value_le : d.value ≤ (x.mantissa + 1 / 2) * (2 : ℚ) ^ x.exponent := by
  have hle := (align_le_iff _ _ _ _).1 h.le_high
  rw [zpow_sub_two] at hle
  push_cast at hle
  unfold Decimal.value
  linarith

theorem coefficient_le (hwell : x.WellFormed) (hx : x.mantissa ≠ 0) :
    d.coefficient ≤ 10 ^ count := by
  have hten : (0 : ℚ) < 10 ^ d.exponent := by positivity
  set below := 4 * x.mantissa * (align d.exponent (x.exponent - 2)).2 /
    (align d.exponent (x.exponent - 2)).1 with hbelow
  have hle : below * (align d.exponent (x.exponent - 2)).1 ≤
      4 * x.mantissa * (align d.exponent (x.exponent - 2)).2 := Nat.div_mul_le_self _ _
  have hmagnitude : (below : ℚ) * 10 ^ d.exponent ≤ x.magnitude := by
    have hle := (align_le_iff _ _ _ _).1 hle
    rw [zpow_sub_two] at hle
    push_cast at hle
    unfold magnitude
    linarith
  have hlt := hmagnitude.trans_lt (decimalExponent_spec hwell hx).1
  have hsplit : x.decimalExponent + 1 = (count : Int) + d.exponent := by
    rw [h.exponent_eq]
    ring
  rw [hsplit, zpow_add₀ (by norm_num), zpow_natCast] at hlt
  have hcast : (below : ℚ) < 10 ^ count := lt_of_mul_lt_mul_right hlt hten.le
  have hnat : below < 10 ^ count := by exact_mod_cast hcast
  exact h.le_above.trans hnat

end Rounds

/-- Zeros at the end move from the coefficient to the exponent. -/
theorem exists_normalize (fuel : Nat) (d : Decimal) :
    ∃ zeros : Nat, zeros ≤ fuel ∧ (d.normalize fuel).exponent = d.exponent + zeros ∧
      d.coefficient = (d.normalize fuel).coefficient * 10 ^ zeros := by
  induction fuel generalizing d with
  | zero => exact ⟨0, le_rfl, by simp [Decimal.normalize], by simp [Decimal.normalize]⟩
  | succ fuel ih =>
    unfold Decimal.normalize
    split
    next hzero =>
      obtain ⟨zeros, hle, hexponent, hcoefficient⟩ := ih ⟨d.coefficient / 10, d.exponent + 1⟩
      refine ⟨zeros + 1, by omega, by rw [hexponent]; push_cast; ring, ?_⟩
      dsimp only at hcoefficient
      rw [pow_succ, ← mul_assoc, ← hcoefficient]
      simp only [Bool.and_eq_true, decide_eq_true_eq] at hzero
      omega
    next => exact ⟨0, Nat.zero_le _, by simp, by simp⟩

/-- What is known of the decimal that is printed for a number. -/
structure Prints (x : Binary64) (d : Decimal) : Prop where
  coefficient_pos : 0 < d.coefficient
  coefficient_le : d.coefficient ≤ 10 ^ 17
  le_exponent : -400 ≤ d.exponent
  exponent_le : d.exponent ≤ 400
  value_le : 0 < d.exponent → d.value ≤ (x.mantissa + 1 / 2) * (2 : ℚ) ^ x.exponent

theorem prints_shortest (h : x.WellFormed) (hx : x.mantissa ≠ 0) : Prints x x.shortest := by
  unfold shortest
  split
  next d hd =>
    obtain ⟨count, hcount, hd⟩ := List.exists_of_findSome?_eq_some hd
    have hcount : 1 ≤ count ∧ count ≤ 17 := by
      obtain ⟨k, hk, rfl⟩ := List.mem_range'.1 hcount
      omega
    have hrounds := rounds_of_decimal? hd
    have hpos := hrounds.coefficient_pos hx
    have hle := (hrounds.coefficient_le h hx).trans (Nat.pow_le_pow_right (by decide) hcount.2)
    obtain ⟨-, hlow, hhigh⟩ := decimalExponent_spec h hx
    have hexponent := hrounds.exponent_eq
    obtain ⟨zeros, hzeros, hshift, hcoefficient⟩ := exists_normalize 17 d
    have hpow : 0 < 10 ^ zeros := Nat.pow_pos (by decide)
    constructor
    · exact Nat.pos_of_mul_pos_right (hcoefficient ▸ hpos)
    · exact (Nat.le_mul_of_pos_right _ hpow).trans (hcoefficient ▸ hle)
    · omega
    · omega
    · intro _
      have hvalue : (d.normalize 17).value = d.value := by
        unfold Decimal.value
        rw [hshift, hcoefficient, zpow_add₀ (by norm_num), zpow_natCast]
        push_cast
        ring
      rw [hvalue]
      exact hrounds.value_le
  next =>
    have hmantissa : x.mantissa ≤ 10 ^ 17 :=
      h.mantissa_lt.le.trans (by decide : 2 ^ 53 ≤ 10 ^ 17)
    exact ⟨Nat.pos_of_ne_zero hx, hmantissa, by simp, by simp, by simp⟩

end Binary64

end EntityModel
