import EntityModel.Proofs.Except
import EntityModel.Proofs.Json.Scaling

/-!
# Reading numbers back

The text of a number is read as a number again: an integer of 64 bits as itself, and a number of
the binary64 format as its printed decimal, scaled (`Number.exists_signed_text`).
-/

namespace EntityModel.Json.Reader

/-- A text at whose start no number goes on. -/
structure Ends (rest : List Char) : Prop where
  isDigit : ∀ c ∈ rest.head?, c.isDigit = false
  point : ∀ c ∈ rest.head?, c ≠ '.'
  exponent : ∀ c ∈ rest.head?, c ≠ 'e' ∧ c ≠ 'E'

/-! ## Digits -/

section Digits

variable {ds rest : List Char} {negative : Bool}

theorem le_ofDigitChars (ds : List Char) (init : Nat) : init ≤ Nat.ofDigitChars 10 ds init := by
  rw [Nat.ofDigitChars_eq_ofDigitChars_zero]
  have := Nat.le_mul_of_pos_left init (Nat.pow_pos (by decide : 0 < 10) (n := ds.length))
  omega

theorem ofDigitChars_cons (c : Char) (ds : List Char) (init : Nat) :
    Nat.ofDigitChars 10 (c :: ds) init = Nat.ofDigitChars 10 ds (init * 10 + digitValue c) := by
  rw [Nat.ofDigitChars_cons, Nat.mul_comm]
  rfl

theorem not_overflows {significand : Nat} {c : Char}
    (h : Nat.ofDigitChars 10 (c :: ds) significand ≤ maxWord) :
    overflows significand c = false := by
  rw [ofDigitChars_cons] at h
  have := (le_ofDigitChars ds (significand * 10 + digitValue c)).trans h
  simpa [overflows] using this

variable (hds : ∀ c ∈ ds, c.isDigit = true) (hrest : ∀ c ∈ rest.head?, c.isDigit = false)
include hds hrest

theorem whole_digits {significand : Nat} (h : Nat.ofDigitChars 10 ds significand ≤ maxWord) :
    whole negative significand (ds ++ rest) =
      wholeEnd negative (Nat.ofDigitChars 10 ds significand) rest := by
  induction ds generalizing significand with
  | nil =>
    cases rest with
    | nil => rfl
    | cons c rest => simp [whole, hrest c rfl]
  | cons c ds ih =>
    have hc := hds c List.mem_cons_self
    rw [List.cons_append, whole, if_pos hc, not_overflows h, if_neg Bool.false_ne_true,
      ofDigitChars_cons]
    exact ih (fun d hd => hds d (List.mem_cons_of_mem _ hd)) (ofDigitChars_cons c ds _ ▸ h)

theorem fraction_digits {before : Int} {significand count : Nat}
    (h : Nat.ofDigitChars 10 ds significand ≤ maxWord) (hcount : 0 < count + ds.length) :
    fraction negative before significand count (ds ++ rest) =
      fractionEnd negative (Nat.ofDigitChars 10 ds significand)
        (before - (count + ds.length : Nat)) rest := by
  induction ds generalizing significand count with
  | nil =>
    have hcount : count ≠ 0 := by simpa using hcount.ne'
    cases rest with
    | nil => simp [fraction, hcount]
    | cons c rest => simp [fraction, hrest c rfl, hcount]
  | cons c ds ih =>
    have hc := hds c List.mem_cons_self
    have hlength : count + (c :: ds).length = count + 1 + ds.length := by
      simp only [List.length_cons]
      omega
    rw [List.cons_append, fraction, if_pos hc, not_overflows h, if_neg Bool.false_ne_true,
      ofDigitChars_cons, hlength]
    exact ih (fun d hd => hds d (List.mem_cons_of_mem _ hd)) (ofDigitChars_cons c ds _ ▸ h)
      (by omega)

theorem exponentDigits_digits (significand : Nat) (start : Int) (down : Bool) {exponent : Nat}
    (h : Nat.ofDigitChars 10 ds exponent ≤ maxExponent) :
    exponentDigits negative significand start down exponent (ds ++ rest) =
      scaled negative significand
        (if down then start - Nat.ofDigitChars 10 ds exponent
          else start + Nat.ofDigitChars 10 ds exponent) rest := by
  induction ds generalizing exponent with
  | nil =>
    cases rest with
    | nil => rfl
    | cons c rest => simp [exponentDigits, hrest c rfl]
  | cons c ds ih =>
    have hc := hds c List.mem_cons_self
    rw [ofDigitChars_cons] at h
    have hle := (le_ofDigitChars ds (exponent * 10 + digitValue c)).trans h
    rw [List.cons_append, exponentDigits, if_pos hc, ofDigitChars_cons]
    dsimp only
    rw [if_neg (by omega)]
    exact ih (fun d hd => hds d (List.mem_cons_of_mem _ hd)) h

end Digits

/-! ## Decimals -/

section Decimal

variable {rest : List Char} (negative : Bool)

theorem isDigit_toDigits (n : Nat) : ∀ c ∈ Nat.toDigits 10 n, c.isDigit = true :=
  fun _ => Nat.isDigit_of_mem_toDigits (by decide) (by decide)

theorem ofDigitChars_toDigits (n : Nat) : Nat.ofDigitChars 10 (Nat.toDigits 10 n) 0 = n :=
  Nat.ofDigitChars_toDigits (by decide) (by decide)

/-- A number other than zero has no zero in front. -/
theorem exists_toDigits {n : Nat} (hn : 0 < n) :
    ∃ c ds, Nat.toDigits 10 n = c :: ds ∧ c ≠ '0' := by
  induction n using Nat.strongRecOn with
  | ind n ih =>
    rw [Nat.toDigits_eq_if (by decide)]
    split
    next hlt =>
      have hfirst : ∀ d < 10, 0 < d → Nat.digitChar d ≠ '0' := by decide
      exact ⟨_, [], rfl, hfirst n hlt hn⟩
    next hge =>
      obtain ⟨c, ds, heq, hc⟩ := ih (n / 10) (by omega) (by omega)
      exact ⟨c, ds ++ [(n % 10).digitChar], by rw [heq]; rfl, hc⟩

/-- Digits of which the first is not zero. -/
theorem number_digits {c : Char} {ds : List Char} (hds : ∀ d ∈ c :: ds, d.isDigit = true)
    (hc : c ≠ '0') (h : Nat.ofDigitChars 10 (c :: ds) 0 ≤ maxWord)
    (hrest : ∀ c ∈ rest.head?, c.isDigit = false) :
    number negative (c :: ds ++ rest) =
      wholeEnd negative (Nat.ofDigitChars 10 (c :: ds) 0) rest := by
  have hdigit := hds c List.mem_cons_self
  rw [ofDigitChars_cons, Nat.zero_mul, Nat.zero_add] at h ⊢
  rw [← whole_digits (fun d hd => hds d (List.mem_cons_of_mem _ hd)) hrest h]
  unfold number
  split
  next heq => cases heq
  next heq => exact absurd (List.cons.inj heq).1 hc
  next heq =>
    cases heq
    rw [if_pos hdigit]
    rfl

/-- The digits of a whole number. -/
theorem number_toDigits {n : Nat} (h : n ≤ maxWord) (hrest : ∀ c ∈ rest.head?, c.isDigit = false) :
    number negative (Nat.toDigits 10 n ++ rest) = wholeEnd negative n rest := by
  rcases Nat.eq_zero_or_pos n with rfl | hn
  · cases rest with
    | nil => rfl
    | cons c rest => simp [number, hrest c rfl]
  · obtain ⟨c, ds, heq, hc⟩ := exists_toDigits hn
    have hvalue := ofDigitChars_toDigits n
    have hds := isDigit_toDigits n
    rw [heq] at hvalue hds ⊢
    rw [number_digits negative hds hc (hvalue.le.trans h) hrest, hvalue]

theorem exponent_toDigits {significand n : Nat} {start : Int} (down : Bool)
    (hn : n ≤ maxExponent) (hrest : ∀ c ∈ rest.head?, c.isDigit = false) :
    exponent negative significand start
        ((if down then '-' else '+') :: (Nat.toDigits 10 n ++ rest)) =
      scaled negative significand (if down then start - n else start + n) rest := by
  have hds := isDigit_toDigits n
  have hvalue := ofDigitChars_toDigits n
  cases heq : Nat.toDigits 10 n with
  | nil => exact absurd heq Nat.toDigits_ne_nil
  | cons c ds =>
    rw [heq] at hds hvalue
    have hc := hds c List.mem_cons_self
    rw [ofDigitChars_cons, Nat.zero_mul, Nat.zero_add] at hvalue
    have hrestDigits : ∀ d ∈ ds, d.isDigit = true := fun d hd => hds d (List.mem_cons_of_mem _ hd)
    have hdigits : exponentDigits negative significand start down (digitValue c) (ds ++ rest) =
        scaled negative significand (if down then start - n else start + n) rest := by
      rw [exponentDigits_digits hrestDigits hrest significand start down (hvalue.le.trans hn),
        hvalue]
    cases down <;> simp [exponent, hc, hdigits]

/-- Zeros behind a whole number. -/
theorem toDigits_mul_pow {n : Nat} (hn : 0 < n) (zeros : Nat) :
    Nat.toDigits 10 (n * 10 ^ zeros) = Nat.toDigits 10 n ++ List.replicate zeros '0' := by
  induction zeros with
  | zero => simp
  | succ zeros ih =>
    have hpos : 0 < n * 10 ^ zeros := Nat.mul_pos hn (Nat.pow_pos (by decide))
    have happend := Nat.toDigits_append_toDigits (d := 0) (by decide : 1 < 10) hpos (by decide)
    rw [Nat.toDigits_zero] at happend
    rw [List.replicate_succ', ← List.append_assoc, ← ih, happend]
    congr 1
    ring

theorem pow_le_maxWord : 10 ^ 18 ≤ maxWord := by decide

theorem length_digits {d : Decimal} (h : d.coefficient ≤ 10 ^ 17) : d.digits.length ≤ 18 :=
  (Nat.length_toDigits_le_iff (by decide) (by decide)).2 (h.trans_lt (by decide))

theorem fractionEnd_of_ends (hrest : Ends rest) (significand : Nat) (start : Int) :
    fractionEnd negative significand start rest = scaled negative significand start rest := by
  unfold fractionEnd
  split
  next => exact absurd rfl (hrest.exponent 'e' rfl).1
  next => exact absurd rfl (hrest.exponent 'E' rfl).2
  next => rfl

theorem fraction_of_ends {ds : List Char} (hds : ∀ d ∈ ds, d.isDigit = true) (hne : ds ≠ [])
    (hrest : Ends rest) {significand : Nat} (h : Nat.ofDigitChars 10 ds significand ≤ maxWord) :
    fraction negative 0 significand 0 (ds ++ rest) =
      scaled negative (Nat.ofDigitChars 10 ds significand) (-ds.length) rest := by
  have hlength := List.length_pos_of_ne_nil hne
  rw [fraction_digits hds hrest.isDigit h (by omega), fractionEnd_of_ends negative hrest]
  simp

/-- A whole number with one zero behind its point. -/
theorem number_whole {n : Nat} (h : n ≤ 10 ^ 17) (hrest : Ends rest) :
    number negative (Nat.toDigits 10 n ++ (['.', '0'] ++ rest)) =
      scaled negative (n * 10) (-1) rest := by
  have hword : n * 10 ≤ maxWord := (by omega : n * 10 ≤ 10 ^ 18).trans pow_le_maxWord
  have hvalue : Nat.ofDigitChars 10 ['0'] n = n * 10 := by simp [ofDigitChars_cons, digitValue]
  rw [number_toDigits negative (by omega) (by simp)]
  show fraction negative 0 n 0 (['0'] ++ rest) = _
  rw [fraction_of_ends negative (by simp) (by simp) hrest (hvalue ▸ hword), hvalue]
  rfl

/-- Digits with a point among them. -/
theorem number_point {c : Char} {ds back : List Char}
    (hds : ∀ d ∈ c :: ds ++ back, d.isDigit = true) (hc : c ≠ '0') (hne : back ≠ [])
    (h : Nat.ofDigitChars 10 (c :: ds ++ back) 0 ≤ maxWord) (hrest : Ends rest) :
    number negative (c :: ds ++ '.' :: (back ++ rest)) =
      scaled negative (Nat.ofDigitChars 10 (c :: ds ++ back) 0) (-back.length) rest := by
  rw [Nat.ofDigitChars_append] at h ⊢
  rw [number_digits negative (fun d hd => hds d (List.mem_append_left _ hd)) hc
    ((le_ofDigitChars back _).trans h) (by simp)]
  exact fraction_of_ends negative (fun d hd => hds d (List.mem_append_right _ hd)) hne hrest h

/-- Digits behind a zero and a point. -/
theorem number_zero_point {ds : List Char} (hds : ∀ d ∈ ds, d.isDigit = true) (hne : ds ≠ [])
    (h : Nat.ofDigitChars 10 ds 0 ≤ maxWord) (hrest : Ends rest) :
    number negative ('0' :: '.' :: (ds ++ rest)) =
      scaled negative (Nat.ofDigitChars 10 ds 0) (-ds.length) rest :=
  fraction_of_ends negative hds hne hrest h

theorem exponent_exponentText {significand : Nat} {start e : Int} (he : e.natAbs ≤ maxExponent)
    (hrest : Ends rest) :
    exponent negative significand start
        ((if e < 0 then '-' else '+') :: (Nat.toDigits 10 e.natAbs ++ rest)) =
      scaled negative significand (start + e) rest := by
  by_cases hneg : e < 0
  · have hvalue : start + e = start - e.natAbs := by omega
    rw [if_pos hneg, hvalue]
    exact exponent_toDigits negative true he hrest.isDigit
  · have hvalue : start + e = start + e.natAbs := by omega
    rw [if_neg hneg, hvalue]
    exact exponent_toDigits negative false he hrest.isDigit

/-- Digits with a point behind the first of them, if there are more, and an exponent. -/
theorem number_exponent {c : Char} {back : List Char} (hds : ∀ d ∈ c :: back, d.isDigit = true)
    (hc : c ≠ '0') (h : Nat.ofDigitChars 10 (c :: back) 0 ≤ maxWord) {e : Int}
    (he : e.natAbs ≤ maxExponent) (hrest : Ends rest) :
    number negative
        (c :: ((if back = [] then [] else '.' :: back) ++ (Decimal.exponentText e ++ rest))) =
      scaled negative (Nat.ofDigitChars 10 (c :: back) 0) (e - back.length) rest := by
  have hfirst : Nat.ofDigitChars 10 [c] 0 ≤ maxWord := by
    have hle := le_ofDigitChars back (Nat.ofDigitChars 10 [c] 0)
    rw [← Nat.ofDigitChars_append] at hle
    exact hle.trans h
  have hexponent (significand : Nat) (start : Int) :
      fractionEnd negative significand start (Decimal.exponentText e ++ rest) =
        scaled negative significand (start + e) rest := exponent_exponentText negative he hrest
  have hdigit : ∀ d ∈ [c], d.isDigit = true := fun d hd => hds d (by simp_all)
  have htail : ∀ d ∈ (Decimal.exponentText e ++ rest).head?, d.isDigit = false := by
    simp [Decimal.exponentText]
  split
  next hback =>
    subst hback
    have hnumber : number negative ([c] ++ (Decimal.exponentText e ++ rest)) =
        wholeEnd negative (Nat.ofDigitChars 10 [c] 0) (Decimal.exponentText e ++ rest) :=
      number_digits negative hdigit hc hfirst htail
    have hend (significand : Nat) :
        wholeEnd negative significand (Decimal.exponentText e ++ rest) =
          scaled negative significand (0 + e) rest := exponent_exponentText negative he hrest
    rw [hend] at hnumber
    simpa using hnumber
  next hback =>
    have hnumber : number negative ([c] ++ '.' :: (back ++ (Decimal.exponentText e ++ rest))) =
        fraction negative 0 (Nat.ofDigitChars 10 [c] 0) 0
          (back ++ (Decimal.exponentText e ++ rest)) :=
      number_digits negative hdigit hc hfirst (by simp)
    have hvalue : Nat.ofDigitChars 10 back (Nat.ofDigitChars 10 [c] 0) =
        Nat.ofDigitChars 10 (c :: back) 0 := (Nat.ofDigitChars_append 0).symm
    have hlength := List.length_pos_of_ne_nil hback
    rw [fraction_digits (fun d hd => hds d (List.mem_cons_of_mem _ hd)) htail (hvalue ▸ h)
      (by omega), hvalue, hexponent] at hnumber
    have hsum : (0 : Int) - (0 + back.length : Nat) + e = e - back.length := by
      push_cast
      ring
    rw [hsum] at hnumber
    simpa using hnumber

/-! ### The four layouts of a decimal -/

/-- Is a text read as `significand * 10 ^ exponent`? -/
def ReadsAs (text : List Char) (significand : Nat) (exponent : Int) : Prop :=
  ∀ rest, Ends rest → number negative (text ++ rest) = scaled negative significand exponent rest

variable {d : Decimal}

theorem readsAs_whole (hpos : 0 < d.coefficient) (hexponent : 0 ≤ d.exponent)
    (hpoint : d.point ≤ 16) :
    ReadsAs negative (d.digits ++ List.replicate d.exponent.toNat '0' ++ ['.', '0'])
        (d.coefficient * 10 ^ d.exponent.toNat * 10) (-1) ∧
      d.coefficient * 10 ^ d.exponent.toNat * 10 ≤ 10 ^ 18 := by
  have hlength : d.point = d.digits.length + d.exponent := rfl
  -- the zeros belong to the digits
  have hzeros := toDigits_mul_pow hpos d.exponent.toNat
  have hshort : (Nat.toDigits 10 (d.coefficient * 10 ^ d.exponent.toNat)).length ≤ 16 := by
    unfold Decimal.digits at hlength
    rw [hzeros, List.length_append, List.length_replicate]
    omega
  have hlt := (Nat.length_toDigits_le_iff (by decide) (by decide)).1 hshort
  refine ⟨fun rest hrest => ?_, by omega⟩
  rw [Decimal.digits, ← hzeros, List.append_assoc, number_whole negative (by omega) hrest]

section Word

variable {c : Char} {ds : List Char} (hdigits : d.digits = c :: ds) (hc : c ≠ '0')
  (hword : d.coefficient ≤ maxWord)
include hdigits hc hword

theorem readsAs_point (hpos : 0 < d.point) (hexponent : d.exponent < 0) :
    ReadsAs negative (d.digits.take d.point.toNat ++ '.' :: d.digits.drop d.point.toNat)
      d.coefficient d.exponent := by
  intro rest hrest
  have hds : ∀ e ∈ d.digits, e.isDigit = true := isDigit_toDigits d.coefficient
  have hvalue : Nat.ofDigitChars 10 d.digits 0 = d.coefficient := ofDigitChars_toDigits _
  have hlength : d.point = d.digits.length + d.exponent := rfl
  obtain ⟨front, hfront⟩ := Nat.exists_eq_add_of_lt (by omega : 0 < d.point.toNat)
  rw [Nat.zero_add] at hfront
  rw [hdigits] at hds hvalue hlength ⊢
  rw [List.length_cons] at hlength
  have hsplit : c :: ds.take front ++ ds.drop front = c :: ds := by simp
  have hnumber := number_point negative (hsplit ▸ hds) hc (List.drop_eq_nil_iff.not.2 (by omega))
    (hsplit ▸ hvalue.le.trans hword) hrest
  have hexponent : -((ds.length - front : Nat) : Int) = d.exponent := by omega
  rw [hsplit, hvalue, List.length_drop, hexponent] at hnumber
  simpa [hfront] using hnumber

omit hc in
theorem readsAs_zero_point (hpoint : d.point ≤ 0) :
    ReadsAs negative ('0' :: '.' :: (List.replicate (-d.point).toNat '0' ++ d.digits))
      d.coefficient d.exponent := by
  intro rest hrest
  have hvalue : Nat.ofDigitChars 10 (List.replicate (-d.point).toNat '0' ++ d.digits) 0 =
      d.coefficient := by
    rw [Nat.ofDigitChars_append, Nat.ofDigitChars_replicate_zero, Nat.mul_zero]
    exact ofDigitChars_toDigits _
  have hds : ∀ e ∈ List.replicate (-d.point).toNat '0' ++ d.digits, e.isDigit = true := by
    intro e he
    rcases List.mem_append.1 he with he | he
    · rw [List.eq_of_mem_replicate he]
      decide
    · exact isDigit_toDigits d.coefficient e he
  have hnumber := number_zero_point negative hds (by simp [hdigits]) (hvalue.le.trans hword) hrest
  have hlength : d.point = d.digits.length + d.exponent := rfl
  have hexponent : -(((-d.point).toNat + d.digits.length : Nat) : Int) = d.exponent := by omega
  rw [hvalue, List.length_append, List.length_replicate, hexponent] at hnumber
  exact hnumber

theorem readsAs_exponent (hlow : -400 ≤ d.exponent) (hhigh : d.exponent ≤ 400)
    (hlength : d.digits.length ≤ 18) :
    ReadsAs negative
      (c :: ((if ds = [] then [] else '.' :: ds) ++ Decimal.exponentText (d.point - 1)))
      d.coefficient d.exponent := by
  intro rest hrest
  have hds : ∀ e ∈ d.digits, e.isDigit = true := isDigit_toDigits d.coefficient
  have hvalue : Nat.ofDigitChars 10 d.digits 0 = d.coefficient := ofDigitChars_toDigits _
  have hpoint : d.point = d.digits.length + d.exponent := rfl
  rw [hdigits] at hds hvalue hpoint hlength
  rw [List.length_cons] at hpoint hlength
  have hnumber := number_exponent negative (e := d.point - 1) hds hc (hvalue.le.trans hword)
    (by unfold maxExponent; omega) hrest
  have hexponent : d.point - 1 - ds.length = d.exponent := by omega
  rw [hvalue, hexponent] at hnumber
  rw [List.cons_append, List.append_assoc, hnumber]

end Word

/-- A printed decimal is read as its coefficient and exponent, or with one more zero. -/
theorem exists_readsAs {d : Decimal} (hpos : 0 < d.coefficient) (hle : d.coefficient ≤ 10 ^ 17)
    (hlow : -400 ≤ d.exponent) (hhigh : d.exponent ≤ 400) :
    ∃ significand exponent,
      ReadsAs negative (d.text Decimal.documentLayout) significand exponent ∧
      (significand = d.coefficient ∧ exponent = d.exponent ∨
        significand ≤ 10 ^ 18 ∧ exponent < 0) := by
  obtain ⟨c, ds, hdigits, hc⟩ := exists_toDigits hpos
  have hword : d.coefficient ≤ maxWord := (by omega : d.coefficient ≤ 10 ^ 18).trans pow_le_maxWord
  unfold Decimal.text Decimal.documentLayout
  dsimp only
  simp only [Bool.and_eq_true, decide_eq_true_eq]
  split
  next hwhole =>
    obtain ⟨hreads, hle⟩ := readsAs_whole negative hpos hwhole.1 hwhole.2
    exact ⟨_, _, hreads, .inr ⟨hle, by decide⟩⟩
  next hwhole =>
    refine ⟨d.coefficient, d.exponent, ?_, .inl ⟨rfl, rfl⟩⟩
    split
    next hinner => exact readsAs_point negative hdigits hc hword hinner.1 (by omega)
    next hinner =>
      split
      next hsmall => exact readsAs_zero_point negative hdigits hword hsmall.2
      next hsmall =>
        have hexponent := readsAs_exponent negative hdigits hc hword hlow hhigh (length_digits hle)
        have hlist : d.digits = c :: ds := hdigits
        rw [hlist]
        cases ds <;> exact hexponent

end Decimal

/-! ## Numbers of a document -/

theorem Ends.nil : Ends [] := ⟨by simp, by simp, by simp⟩

theorem wholeEnd_of_ends {rest : List Char} (hrest : Ends rest) (negative : Bool)
    (significand : Nat) :
    wholeEnd negative significand rest = .ok (ofWhole negative significand, rest) := by
  unfold wholeEnd
  split
  next => exact absurd rfl (hrest.point '.' rfl)
  next => exact absurd rfl (hrest.exponent 'e' rfl).1
  next => exact absurd rfl (hrest.exponent 'E' rfl).2
  next => rfl

theorem scaled_of_some {negative : Bool} {significand : Nat} {exponent : Int} {y : Binary64}
    (h : scaled? negative significand exponent = some y) (rest : List Char) :
    scaled negative significand exponent rest = .ok (.float y, rest) := by
  unfold scaled
  rw [h]

/-- Reads a number, its sign included. -/
def signed : List Char → Except Stop (Number × List Char)
  | '-' :: rest => number true rest
  | cs => number false cs

theorem exists_digit_of_number {negative : Bool} {cs : List Char} {result : Number × List Char}
    (h : number negative cs = .ok result) : ∃ c rest, cs = c :: rest ∧ c.isDigit = true := by
  unfold number at h
  split at h
  next => cases h
  next => exact ⟨_, _, rfl, by decide⟩
  next c rest _ =>
    split at h
    next hc => exact ⟨c, rest, rfl, hc⟩
    next => cases h

theorem signed_of_isDigit {c : Char} (hc : c.isDigit = true) (rest : List Char) :
    signed (c :: rest) = number false (c :: rest) := by
  unfold signed
  split
  next heq =>
    cases heq
    exact absurd hc (by decide)
  next => rfl

/-- A text that is read as a number without its sign. -/
theorem signed_of_number {cs : List Char} {result : Number × List Char}
    (h : number false cs = .ok result) : signed cs = .ok result := by
  obtain ⟨c, rest, rfl, hc⟩ := exists_digit_of_number h
  rw [signed_of_isDigit hc, h]

/-- What is read as a number starts with a sign or a digit. -/
theorem head_of_signed {cs : List Char} {result : Number × List Char}
    (h : signed cs = .ok result) : ∃ c rest, cs = c :: rest ∧ (c = '-' ∨ c.isDigit = true) := by
  unfold signed at h
  split at h
  next => exact ⟨_, _, rfl, .inl rfl⟩
  next =>
    obtain ⟨c, rest, heq, hc⟩ := exists_digit_of_number h
    exact ⟨c, rest, heq, .inr hc⟩

end EntityModel.Json.Reader

namespace EntityModel

open Json.Reader

/-- The numbers that a text can give: the integers of 64 bits and the numbers of the binary64
format. -/
def Number.Bounded : Number → Prop
  | .int n => -2 ^ 63 ≤ n ∧ n ≤ maxWord
  | .float x => x.WellFormed

namespace Binary64

theorem pow_lt_limit : (10 : ℚ) ^ 18 < limit :=
  (pow_le_pow_right₀ (by norm_num) (by decide)).trans_lt pow_maxPower_lt_limit

variable {x : Binary64}

theorem exists_number_zero (negative : Bool) :
    ∃ y, ∀ rest, Ends rest → number negative (['0', '.', '0'] ++ rest) = .ok (.float y, rest) := by
  have hlimit : ((0 : Nat) : ℚ) < limit := by
    rw [Nat.cast_zero]
    exact (by positivity : (0 : ℚ) < 10 ^ 18).trans pow_lt_limit
  obtain ⟨y, hy⟩ := exists_scaled?_of_neg negative hlimit (by decide : (-1 : Int) < 0)
  refine ⟨y, fun rest hrest => ?_⟩
  have hnumber : number negative ('0' :: '.' :: (['0'] ++ rest)) = scaled negative 0 (-1) rest :=
    number_zero_point negative (by simp) (by simp) (by decide) hrest
  exact hnumber.trans (scaled_of_some hy rest)

theorem exists_number_shortest (negative : Bool) (h : x.WellFormed) (hx : x.mantissa ≠ 0) :
    ∃ y, ∀ rest, Ends rest →
      number negative (x.shortest.text Decimal.documentLayout ++ rest) = .ok (.float y, rest) := by
  obtain ⟨hpos, hle, hlow, hhigh, -⟩ := prints_shortest h hx
  obtain ⟨significand, exponent, hreads, hcases⟩ := exists_readsAs negative hpos hle hlow hhigh
  have hsome : ∃ y, scaled? negative significand exponent = some y := by
    rcases hcases with ⟨rfl, rfl⟩ | ⟨hsignificand, hexponent⟩
    · exact exists_scaled?_shortest negative h hx
    · have hcast : (significand : ℚ) ≤ 10 ^ 18 := by exact_mod_cast hsignificand
      exact exists_scaled?_of_neg negative (hcast.trans_lt pow_lt_limit) hexponent
  obtain ⟨y, hy⟩ := hsome
  exact ⟨y, fun rest hrest => (hreads rest hrest).trans (scaled_of_some hy rest)⟩

/-- A number of the format is read from its text. -/
theorem exists_signed_text (h : x.WellFormed) :
    ∃ y, ∀ rest, Ends rest → signed (x.text.toList ++ rest) = .ok (.float y, rest) := by
  have hmagnitude : ∃ y, ∀ rest, Ends rest →
      number x.negative ((if x.mantissa = 0 then ['0', '.', '0']
        else x.shortest.text Decimal.documentLayout) ++ rest) = .ok (.float y, rest) := by
    split
    next => exact exists_number_zero x.negative
    next hx => exact exists_number_shortest x.negative h hx
  obtain ⟨y, hy⟩ := hmagnitude
  refine ⟨y, fun rest hrest => ?_⟩
  have hy := hy rest hrest
  unfold Binary64.text
  cases hnegative : x.negative with
  | true =>
    rw [hnegative] at hy
    simpa [signed] using hy
  | false =>
    rw [hnegative] at hy
    simpa using signed_of_number hy

end Binary64

namespace Number

theorem signed_text_int {n : Int} (h : Bounded (.int n)) {rest : List Char} (hrest : Ends rest) :
    signed ((Number.int n).text.toList ++ rest) = .ok (.int n, rest) := by
  obtain ⟨hlow, hhigh⟩ := h
  cases n with
  | ofNat k =>
    have hk : k ≤ maxWord := Int.ofNat_le.1 hhigh
    rw [toList_text_ofNat]
    apply signed_of_number
    rw [number_toDigits false hk hrest.isDigit, wholeEnd_of_ends hrest]
    rfl
  | negSucc k =>
    have hk : k + 1 ≤ 2 ^ 63 := by omega
    have hnumber := number_toDigits true (hk.trans (by decide : 2 ^ 63 ≤ maxWord)) hrest.isDigit
    rw [wholeEnd_of_ends hrest] at hnumber
    have hwhole : ofWhole true (k + 1) = .int (Int.negSucc k) := by
      have hshift : (1 <<< 63 : Nat) = 2 ^ 63 := by decide
      unfold ofWhole
      rw [if_neg (by simp), if_neg (by simp [hshift]; omega)]
      rfl
    rw [toList_text_negSucc, List.cons_append, signed, hnumber, hwhole]

/-- A bounded number is read from its text. -/
theorem exists_signed_text {n : Number} (h : n.Bounded) :
    ∃ m, ∀ rest, Ends rest → signed (n.text.toList ++ rest) = .ok (m, rest) := by
  cases n with
  | int n => exact ⟨.int n, fun rest hrest => signed_text_int h hrest⟩
  | float x =>
    obtain ⟨y, hy⟩ := Binary64.exists_signed_text h
    exact ⟨.float y, hy⟩

/-- The number that is read from the text of a number. -/
def reread (n : Number) : Number :=
  match signed n.text.toList with
  | .ok (m, _) => m
  | .error _ => n

theorem signed_text {n : Number} (h : n.Bounded) {rest : List Char} (hrest : Ends rest) :
    signed (n.text.toList ++ rest) = .ok (n.reread, rest) := by
  obtain ⟨m, hm⟩ := exists_signed_text h
  have hreread : n.reread = m := by
    unfold reread
    rw [← List.append_nil n.text.toList, hm [] Ends.nil]
  rw [hreread, hm rest hrest]

/-- A 64 bit integer is read as itself. -/
theorem reread_int {n : Int} (h : Bounded (.int n)) : (Number.int n).reread = .int n := by
  have hself := signed_text_int h Ends.nil
  rw [signed_text h Ends.nil] at hself
  exact (Prod.mk.inj (Except.ok.inj hself)).1

end Number

end EntityModel
