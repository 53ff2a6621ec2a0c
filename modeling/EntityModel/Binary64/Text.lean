import EntityModel.Binary64.Shortest

/-!
# Binary64 numbers as text

A number is written with the digits of its shortest decimal. The decimal point stands among the
digits, or a few zeros away from them, as long as the number lies between `0.00001` and `10 ^ 16`;
beyond that the text has an exponent with a sign. A whole number keeps one zero after its point.
-/

namespace EntityModel

namespace Decimal

/-- Where positional text gives way to an exponent. -/
structure Layout where
  /-- The point may stand at most this many digits to the right of the first one. -/
  most : Int
  /-- The point may stand at most this many digits to the left of the first one. -/
  least : Int

/-- The layout of numbers in a document. -/
def documentLayout : Layout := ⟨16, 4⟩

/-- The text of an exponent, its sign included. -/
def exponentText (e : Int) : List Char :=
  'e' :: (if e < 0 then '-' else '+') :: Nat.toDigits 10 e.natAbs

def text (layout : Layout) (d : Decimal) : List Char :=
  let digits := d.digits
  let point := d.point
  if 0 ≤ d.exponent && point ≤ layout.most then
    digits ++ List.replicate d.exponent.toNat '0' ++ ['.', '0']
  else if 0 < point && point ≤ layout.most then
    digits.take point.toNat ++ '.' :: digits.drop point.toNat
  else if -layout.least ≤ point && point ≤ 0 then
    '0' :: '.' :: (List.replicate (-point).toNat '0' ++ digits)
  else
    match digits with
    | [] => []
    | [first] => first :: exponentText (point - 1)
    | first :: rest => first :: '.' :: rest ++ exponentText (point - 1)

end Decimal

namespace Binary64

def text (x : Binary64) : String :=
  let magnitude :=
    if x.mantissa = 0 then ['0', '.', '0'] else x.shortest.text Decimal.documentLayout
  String.ofList (if x.negative then '-' :: magnitude else magnitude)

end Binary64

end EntityModel
