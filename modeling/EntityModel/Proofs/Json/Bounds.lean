import EntityModel.Proofs.Json.Measure
import EntityModel.Proofs.Json.Numbers

/-!
# Numbers that are read

Whatever the text, a number that is read from it is an integer of 64 bits or a number of the
binary64 format, and so is every number of a value (`bounded_of_read`).
-/

namespace EntityModel

namespace Binary64

variable {x y z : Binary64}

theorem WellFormed.withSign (h : x.WellFormed) (negative : Bool) :
    (x.withSign negative).WellFormed :=
  ⟨h.mantissa_lt, h.minExponent_le, h.exponent_le⟩

theorem wellFormed_of_mul (h : x.mul y = some z) : z.WellFormed :=
  wellFormed_of_ofRatio (Nat.mul_pos x.ratio_pos y.ratio_pos) h

theorem wellFormed_of_ofNat {n : Nat} (h : Binary64.ofNat n = some x) : x.WellFormed :=
  wellFormed_of_ofRatio Nat.one_pos h

end Binary64

namespace Json.Reader

open Binary64

theorem wellFormed_of_scaled? {negative : Bool} {significand : Nat} {exponent : Int} {x : Binary64}
    (h : scaled? negative significand exponent = some x) : x.WellFormed := by
  obtain ⟨y, hy, h⟩ := Option.bind_eq_some_iff.1 h
  obtain ⟨z, hz, rfl⟩ := Option.map_eq_some_iff.1 h
  have hwell := wellFormed_of_ofNat hy
  refine WellFormed.withSign ?_ negative
  split at hz
  next =>
    obtain ⟨w, hw, hwellFormed⟩ := exists_divideByPower 4 hwell (-exponent).toNat
    rw [hz] at hw
    cases hw
    exact hwellFormed
  next =>
    split at hz
    next =>
      obtain ⟨power, -, hz⟩ := Option.bind_eq_some_iff.1 hz
      exact wellFormed_of_mul hz
    next =>
      split at hz
      · cases hz
        exact hwell
      · cases hz

/-! ## Numbers -/

/-- Is the number bounded, if one is read? -/
def Bounds (result : Except Stop (Number × List Char)) : Prop :=
  ∀ n rest, result = .ok (n, rest) → n.Bounded

section Number

variable {negative : Bool} {significand : Nat} {rest : List Char}

@[simp] theorem bounds_stopAt (fault : Fault) : Bounds (stopAt fault rest) := by
  rintro n rest ⟨⟩

@[simp] theorem bounds_stopIn (fault : Fault) : Bounds (stopIn fault rest) := by
  rintro n rest ⟨⟩

theorem bounds_ok {n : Number} (h : n.Bounded) : Bounds (.ok (n, rest)) := by
  rintro n rest ⟨⟩
  exact h

theorem bounds_zero : Bounds (.ok (.float (Binary64.zero negative), rest)) :=
  bounds_ok wellFormed_zero

theorem bounds_scaled (exponent : Int) : Bounds (scaled negative significand exponent rest) := by
  unfold scaled
  split
  next x hx => exact bounds_ok (wellFormed_of_scaled? hx)
  next => exact bounds_stopAt _

theorem bounds_exponentDigits (start : Int) (down : Bool) (exponent : Nat) :
    Bounds (exponentDigits negative significand start down exponent rest) := by
  induction rest generalizing exponent with
  | nil => exact bounds_scaled _
  | cons c rest ih =>
    rw [exponentDigits]
    dsimp only
    split
    · split
      · split
        · exact bounds_stopAt _
        · exact bounds_zero
      · exact ih _
    · exact bounds_scaled _

theorem bounds_exponent (start : Int) : Bounds (exponent negative significand start rest) := by
  unfold exponent
  dsimp only
  split
  · exact bounds_stopAt _
  · split
    · exact bounds_exponentDigits _ _ _
    · exact bounds_stopIn _

theorem bounds_fractionEnd (start : Int) :
    Bounds (fractionEnd negative significand start rest) := by
  unfold fractionEnd
  split
  · exact bounds_exponent start
  · exact bounds_exponent start
  · exact bounds_scaled start

theorem bounds_fraction (before : Int) (count : Nat) :
    Bounds (fraction negative before significand count rest) := by
  induction rest generalizing significand count with
  | nil =>
    rw [fraction]
    split
    · exact bounds_stopAt _
    · exact bounds_fractionEnd _
  | cons c rest ih =>
    rw [fraction]
    split
    · split
      · exact bounds_fractionEnd _
      · exact ih _
    · split
      · exact bounds_stopIn _
      · exact bounds_fractionEnd _

theorem bounds_longWhole (power : Nat) : Bounds (longWhole negative significand power rest) := by
  induction rest generalizing power with
  | nil => exact bounds_scaled _
  | cons c rest ih =>
    rw [longWhole]
    split
    · exact ih _
    · split
      · exact bounds_fraction _ _
      · exact bounds_fractionEnd _

/-- Only a whole number that fits 64 bits, its sign included, is kept as an integer. -/
theorem bounded_ofWhole (h : significand ≤ maxWord) : (ofWhole negative significand).Bounded := by
  unfold ofWhole
  split
  next =>
    have hcast : (significand : Int) ≤ maxWord := by exact_mod_cast h
    exact ⟨by omega, hcast⟩
  next =>
    split
    next =>
      split
      next x hx => exact (wellFormed_of_ofNat hx).withSign true
      next => exact wellFormed_zero
    next hsmall =>
      have hle : significand ≤ 2 ^ 63 := by
        simp only [Bool.or_eq_true, decide_eq_true_eq, not_or, not_lt, Nat.one_shiftLeft] at hsmall
        exact hsmall.2
      have hcast : (significand : Int) ≤ 2 ^ 63 := by exact_mod_cast hle
      exact ⟨by omega, by omega⟩

theorem bounds_wholeEnd (h : significand ≤ maxWord) :
    Bounds (wholeEnd negative significand rest) := by
  unfold wholeEnd
  split
  · exact bounds_fraction _ _
  · exact bounds_exponent _
  · exact bounds_exponent _
  · exact bounds_ok (bounded_ofWhole h)

theorem bounds_whole (h : significand ≤ maxWord) : Bounds (whole negative significand rest) := by
  induction rest generalizing significand with
  | nil => exact bounds_wholeEnd h
  | cons c rest ih =>
    rw [whole]
    split
    · split
      · exact bounds_longWhole _
      · next hfits => exact ih (by simpa [overflows] using hfits)
    · exact bounds_wholeEnd h

theorem digitValue_le {c : Char} (h : c.isDigit = true) : digitValue c ≤ 9 := by
  simp only [Char.isDigit, Bool.and_eq_true, decide_eq_true_eq] at h
  have hle : c.toNat ≤ '9'.toNat := h.2
  have hnine : '9'.toNat = 57 := rfl
  have hzero : '0'.toNat = 48 := rfl
  unfold digitValue
  omega

theorem bounds_number (negative : Bool) (cs : List Char) : Bounds (number negative cs) := by
  unfold number
  split
  · exact bounds_stopAt _
  · split
    · split
      · exact bounds_stopIn _
      · exact bounds_wholeEnd (Nat.zero_le _)
    · exact bounds_wholeEnd (Nat.zero_le _)
  · split
    next hc => exact bounds_whole ((digitValue_le hc).trans (by decide))
    next => exact bounds_stopIn _

end Number

end Json.Reader

/-! ## Values -/

namespace Json

theorem Fields.mem_insert {fields : Fields} {key : String} {value : Json} {field : String × Json}
    (h : field ∈ fields.insert key value) : field = (key, value) ∨ field ∈ fields := by
  induction fields with
  | nil => exact .inl (List.mem_singleton.1 h)
  | cons first rest ih =>
    rw [insert] at h
    split at h
    next hkey =>
      rcases List.mem_cons.1 h with rfl | h
      · exact .inl (by rw [hkey])
      · exact .inr (List.mem_cons_of_mem _ h)
    next =>
      rcases List.mem_cons.1 h with rfl | h
      · exact .inr List.mem_cons_self
      · exact (ih h).imp_right (List.mem_cons_of_mem _)

theorem Fields.mem_foldl_insert {pairs : List (String × Json)} {fields : Fields}
    {field : String × Json}
    (h : field ∈ pairs.foldl (fun fields (key, value) => fields.insert key value) fields) :
    field ∈ fields ∨ field ∈ pairs := by
  induction pairs generalizing fields with
  | nil => exact .inl h
  | cons pair rest ih =>
    rcases ih h with h | h
    · rcases mem_insert h with rfl | h
      · exact .inr List.mem_cons_self
      · exact .inl h
    · exact .inr (List.mem_cons_of_mem _ h)

theorem numbers_ofPairs {pairs : List (String × Json)} {n : Number}
    (h : n ∈ (ofPairs pairs).numbers) : n ∈ fieldsNumbers pairs := by
  obtain ⟨field, hfield, hn⟩ := mem_fieldsNumbers.1 h
  have hpair := (Fields.mem_foldl_insert hfield).resolve_left List.not_mem_nil
  exact mem_fieldsNumbers.2 ⟨field, hpair, hn⟩

namespace Reader

/-- With some fuel, every number of what is read is bounded. -/
structure BoundedAt (fuel : Nat) : Prop where
  value : ∀ depth cs j rest, Reader.value fuel depth cs = .ok (j, rest) →
    ∀ n ∈ j.numbers, n.Bounded
  items : ∀ depth first cs list rest, Reader.items fuel depth first cs = .ok (list, rest) →
    ∀ n ∈ itemsNumbers list, n.Bounded
  fields : ∀ depth first cs pairs rest, Reader.fields fuel depth first cs = .ok (pairs, rest) →
    ∀ n ∈ fieldsNumbers pairs, n.Bounded

namespace BoundedAt

variable {fuel : Nat} (h : BoundedAt fuel)
include h

theorem value_step {depth : Nat} {cs rest : List Char} {j : Json}
    (hread : Reader.value (fuel + 1) depth cs = .ok (j, rest)) : ∀ n ∈ j.numbers, n.Bounded := by
  have hnumber {negative : Bool} {cs rest : List Char} {m : Number}
      (hm : number negative cs = .ok (m, rest)) : ∀ n ∈ (Json.number m).numbers, n.Bounded := by
    intro n hn
    rw [List.mem_singleton.1 hn]
    exact bounds_number negative cs m rest hm
  rw [Reader.value] at hread
  split at hread
  next => cases hread
  next =>
    split at hread
    case h_4 =>
      obtain ⟨⟨m, _⟩, hm, heq⟩ := Except.bind_eq_ok.1 hread
      cases heq
      exact hnumber hm
    case h_6 =>
      split at hread
      · cases hread
      · obtain ⟨⟨list, _⟩, hlist, heq⟩ := Except.bind_eq_ok.1 hread
        cases heq
        exact h.items _ _ _ _ _ hlist
    case h_7 =>
      split at hread
      · cases hread
      · obtain ⟨⟨pairs, _⟩, hpairs, heq⟩ := Except.bind_eq_ok.1 hread
        cases heq
        exact fun n hn => h.fields _ _ _ _ _ hpairs n (numbers_ofPairs hn)
    case h_8 =>
      split at hread
      · obtain ⟨⟨m, _⟩, hm, heq⟩ := Except.bind_eq_ok.1 hread
        cases heq
        exact hnumber hm
      · cases hread
    -- the literals and strings have no number
    all_goals
      obtain ⟨_, -, heq⟩ := Except.bind_eq_ok.1 hread
      cases heq
      simp [numbers]

theorem items_step {depth : Nat} {first : Bool} {cs rest : List Char} {list : List Json}
    (hread : Reader.items (fuel + 1) depth first cs = .ok (list, rest)) :
    ∀ n ∈ itemsNumbers list, n.Bounded := by
  rw [Reader.items] at hread
  obtain ⟨next, -, hread⟩ := Except.bind_eq_ok.1 hread
  cases next with
  | done =>
    cases hread
    simp [itemsNumbers]
  | more =>
    obtain ⟨⟨item, rest⟩, hitem, hread⟩ := Except.bind_eq_ok.1 hread
    obtain ⟨⟨list, _⟩, hlist, heq⟩ := Except.bind_eq_ok.1 hread
    cases heq
    intro n hn
    rcases List.mem_append.1 hn with hn | hn
    · exact h.value _ _ _ _ hitem n hn
    · exact h.items _ _ _ _ _ hlist n hn

theorem fields_step {depth : Nat} {first : Bool} {cs rest : List Char}
    {pairs : List (String × Json)}
    (hread : Reader.fields (fuel + 1) depth first cs = .ok (pairs, rest)) :
    ∀ n ∈ fieldsNumbers pairs, n.Bounded := by
  rw [Reader.fields] at hread
  obtain ⟨next, -, hread⟩ := Except.bind_eq_ok.1 hread
  cases next with
  | done =>
    cases hread
    simp [fieldsNumbers]
  | more =>
    obtain ⟨⟨key, rest⟩, -, hread⟩ := Except.bind_eq_ok.1 hread
    obtain ⟨rest, -, hread⟩ := Except.bind_eq_ok.1 hread
    obtain ⟨⟨item, rest⟩, hitem, hread⟩ := Except.bind_eq_ok.1 hread
    obtain ⟨⟨pairs, _⟩, hpairs, heq⟩ := Except.bind_eq_ok.1 hread
    cases heq
    intro n hn
    rcases List.mem_append.1 hn with hn | hn
    · exact h.value _ _ _ _ hitem n hn
    · exact h.fields _ _ _ _ _ hpairs n hn

end BoundedAt

theorem boundedAt (fuel : Nat) : BoundedAt fuel := by
  induction fuel with
  | zero =>
    constructor
    · rintro depth cs j rest ⟨⟩
    · rintro depth first cs list rest ⟨⟩
    · rintro depth first cs pairs rest ⟨⟩
  | succ fuel ih =>
    exact ⟨fun _ _ _ _ => BoundedAt.value_step ih, fun _ _ _ _ _ => BoundedAt.items_step ih,
      fun _ _ _ _ _ => BoundedAt.fields_step ih⟩

end Reader

/-- A text is read by reading its value. -/
theorem exists_value_of_read {text : String} {j : Json} (h : read text = .ok j) :
    ∃ rest, Reader.value (2 * text.toList.length + 2) Reader.maxDepth text.toList =
      .ok (j, rest) := by
  unfold read Reader.readWith at h
  split at h
  next result hresult =>
    cases h
    obtain ⟨⟨result, rest⟩, hvalue, hread⟩ := Except.bind_eq_ok.1 hresult
    obtain ⟨_, -, heq⟩ := Except.bind_eq_ok.1 hread
    cases heq
    exact ⟨rest, hvalue⟩
  next => cases h

/-- Every number of a value that is read is bounded. -/
theorem bounded_of_read {text : String} {j : Json} (h : read text = .ok j) :
    ∀ n ∈ j.numbers, n.Bounded := by
  obtain ⟨rest, hvalue⟩ := exists_value_of_read h
  exact (Reader.boundedAt _).value _ _ _ _ hvalue

end Json

end EntityModel
