import EntityModel.Binary64.Basic

/-!
# The shortest decimal of a binary64 number

Of the decimals that round to a number, the printed one has the fewest digits and, among those, lies
nearest. The decimals that round to a number fill an interval around it, whose ends belong to it
when the mantissa is even; on the grid of `n` digit decimals only the two neighbours of the number
need a test.
-/

namespace EntityModel

/-- The decimal `coefficient * 10 ^ exponent`. -/
structure Decimal where
  /-- The digits as one number. -/
  coefficient : Nat
  /-- The power of ten of the last digit. -/
  exponent : Int
  deriving DecidableEq, Repr

namespace Decimal

def digits (d : Decimal) : List Char := Nat.toDigits 10 d.coefficient

/-- The place of the decimal point, counted from the first digit. -/
def point (d : Decimal) : Int := d.digits.length + d.exponent

/-- The decimal without the zeros at its end. -/
def normalize : Nat → Decimal → Decimal
  | 0, d => d
  | fuel + 1, d =>
    if d.coefficient % 10 = 0 && d.coefficient != 0 then
      normalize fuel ⟨d.coefficient / 10, d.exponent + 1⟩
    else d

end Decimal

namespace Binary64

/-- `a * 10 ^ p` and `b * 2 ^ q`, both multiplied by one power of ten and one of two. -/
def align (p q : Int) : Nat × Nat :=
  (tenPow p.toNat <<< (-q).toNat, tenPow (-p).toNat <<< q.toNat)

/-- The greatest `k` with `10 ^ k` at most the magnitude of a number other than zero. -/
def decimalExponent (x : Binary64) : Int :=
  let guess : Int := ((x.mantissa.log2 : Int) + x.exponent) * 30103 / 100000
  let reaches (k : Int) : Bool :=
    let (ten, two) := align k x.exponent
    decide (ten ≤ x.mantissa * two)
  if reaches (guess + 1) then guess + 1 else if reaches guess then guess else guess - 1

/-- The decimal with `count` digits that rounds to the number and is nearest to it. -/
def decimal? (x : Binary64) (count : Nat) : Option Decimal :=
  let exponent := x.decimalExponent - count + 1
  -- four times the mantissa and the ends of its interval, at a quarter of its unit
  let middle := 4 * x.mantissa
  let low := if x.mantissa = 1 <<< 52 && minExponent < x.exponent then middle - 1 else middle - 2
  let high := middle + 2
  let (ten, two) := align exponent (x.exponent - 2)
  let rounds (c : Nat) : Bool :=
    if x.mantissa % 2 = 0 then decide (low * two ≤ c * ten ∧ c * ten ≤ high * two)
    else decide (low * two < c * ten ∧ c * ten < high * two)
  let below := middle * two / ten
  let above := below + 1
  match rounds below, rounds above with
  | true, true =>
    let down := middle * two - below * ten
    let up := above * ten - middle * two
    if down < up || (down == up && below % 2 == 0) then some ⟨below, exponent⟩
    else some ⟨above, exponent⟩
  | true, false => some ⟨below, exponent⟩
  | false, true => some ⟨above, exponent⟩
  | false, false => none

/-- The shortest decimal of a number other than zero; seventeen digits always suffice. -/
def shortest (x : Binary64) : Decimal :=
  match (List.range' 1 17).findSome? x.decimal? with
  | some d => d.normalize 17
  | none => ⟨x.mantissa, 0⟩

example : (Option.map shortest (ofDecimal false 1 (-1))) = some ⟨1, -1⟩ := by decide +kernel
example : shortest ⟨false, 1, -1074⟩ = ⟨5, -324⟩ := by decide +kernel
example : shortest ⟨false, (1 <<< 53) - 1, 971⟩ = ⟨17976931348623157, 292⟩ := by
  decide +kernel

end Binary64

end EntityModel
