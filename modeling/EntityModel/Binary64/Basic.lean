/-!
# Finite binary64 numbers

A number is kept as the exact value `± mantissa * 2 ^ exponent`, so that comparing it, rounding to
it and printing it are questions about natural numbers. Rounding goes to the nearest representable
value and a tie goes to the even mantissa; a value too large to represent has no rounding.
-/

namespace EntityModel

/-- A finite number of the binary64 format. -/
structure Binary64 where
  /-- The sign, which also tells `-0.0` from `0.0`. -/
  negative : Bool
  /-- At most 53 bits. -/
  mantissa : Nat
  /-- From `-1074` to `971`. -/
  exponent : Int
  deriving DecidableEq, Repr

namespace Binary64

/-- The least exponent, that of the subnormal numbers and of zero. -/
def minExponent : Int := -1074

/-- The exponent of the largest numbers. -/
def maxExponent : Int := 971

def zero (negative : Bool) : Binary64 := ⟨negative, 0, minExponent⟩

/-- The same magnitude with the given sign. -/
def withSign (negative : Bool) (x : Binary64) : Binary64 := { x with negative }

/-- The quotient rounded to the nearest natural number, a tie to the even one. -/
def roundDiv (num den : Nat) : Nat :=
  let quotient := num / den
  let rest := 2 * (num % den)
  if rest < den then quotient
  else if den < rest then quotient + 1
  else quotient + quotient % 2

/-- `num / den` as a fraction of `2 ^ exponent`. -/
def rescale (num den : Nat) (exponent : Int) : Nat × Nat :=
  if 0 ≤ exponent then (num, den <<< exponent.toNat) else (num <<< (-exponent).toNat, den)

/-- The exponent at which `num / den` has a mantissa of 53 bits, or the least one. -/
def scale (num den : Nat) : Int :=
  let guess : Int := (num.log2 : Int) - den.log2 - 52
  let (n, d) := rescale num den guess
  max minExponent (if n / d < 1 <<< 52 then guess - 1 else guess)

/-- The number nearest to `num / den`, unless that is beyond the largest one. -/
def ofRatio (negative : Bool) (num den : Nat) : Option Binary64 :=
  if num = 0 then some (zero negative)
  else
    let exponent := scale num den
    let (n, d) := rescale num den exponent
    let mantissa := roundDiv n d
    let (mantissa, exponent) :=
      if mantissa = 1 <<< 53 then (1 <<< 52, exponent + 1) else (mantissa, exponent)
    if maxExponent < exponent then none else some ⟨negative, mantissa, exponent⟩

/-- The magnitude as an exact fraction. -/
def ratio (x : Binary64) : Nat × Nat :=
  if 0 ≤ x.exponent then (x.mantissa <<< x.exponent.toNat, 1)
  else (x.mantissa, 1 <<< (-x.exponent).toNat)

def mul (x y : Binary64) : Option Binary64 :=
  ofRatio (x.negative != y.negative) (x.ratio.1 * y.ratio.1) (x.ratio.2 * y.ratio.2)

/-- The rounded quotient; `none` also for a zero divisor. -/
def div (x y : Binary64) : Option Binary64 :=
  if y.mantissa = 0 then none
  else ofRatio (x.negative != y.negative) (x.ratio.1 * y.ratio.2) (x.ratio.2 * y.ratio.1)

/-- The number nearest to a natural number. -/
def ofNat (n : Nat) : Option Binary64 := ofRatio false n 1

/-- The power of ten with the given exponent. -/
def tenPow (k : Nat) : Nat := Nat.pow 10 k

/-- The number nearest to `digits * 10 ^ exponent`. -/
def ofDecimal (negative : Bool) (digits : Nat) (exponent : Int) : Option Binary64 :=
  let size : Int := (Nat.toDigits 10 digits).length + exponent
  if digits = 0 || size < -400 then some (zero negative)
  else if 400 < size then none
  else if 0 ≤ exponent then ofRatio negative (digits * tenPow exponent.toNat) 1
  else ofRatio negative digits (tenPow (-exponent).toNat)

def exceeds (x : Binary64) (n : Nat) : Bool :=
  !x.negative && decide (n * x.ratio.2 < x.ratio.1)

/-- Is the number at least zero? Both zeros are. -/
def isNonNegative (x : Binary64) : Bool :=
  !x.negative || x.mantissa == 0

example : ofDecimal false 1 (-1) = some ⟨false, 7205759403792794, -56⟩ := by decide +kernel
example : ofDecimal true 5 (-324) = some ⟨true, 1, -1074⟩ := by decide +kernel
example : ofDecimal false 2 308 = none := by decide +kernel

end Binary64

end EntityModel
