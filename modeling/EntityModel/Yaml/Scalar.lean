import EntityModel.Json.Value
import EntityModel.Yaml.Token

/-!
# The values of plain scalars

A plain scalar without a tag is null, a boolean, an integer, a number or else a string, by its
spelling alone. Integers have an optional sign and are decimal, hexadecimal, octal or binary; a
decimal number with a zero in front is a string. An integer beyond 64 bits is refused while it fits
128 bits and is a number beyond that.
-/

namespace EntityModel.Yaml.Scalar

def isNull (s : String) : Bool := ["null", "Null", "NULL", "~"].contains s

def bool? (s : String) : Option Bool :=
  if ["true", "True", "TRUE"].contains s then some true
  else if ["false", "False", "FALSE"].contains s then some false
  else none

/-- The value of a digit in any base up to sixteen. -/
def digit? (c : Char) : Option Nat :=
  if c.isDigit then some (c.toNat - '0'.toNat)
  else if 'a' ≤ c && c ≤ 'f' then some (c.toNat - 'a'.toNat + 10)
  else if 'A' ≤ c && c ≤ 'F' then some (c.toNat - 'A'.toNat + 10)
  else none

/-- The number spelled by at least one digit of a base, and nothing else. -/
def natural? (base : Nat) (cs : List Char) : Option Nat :=
  if cs.isEmpty then none
  else
    cs.foldlM (fun n c => do
      let digit ← digit? c
      if digit < base then some (n * base + digit) else none) 0

/-- Is it a decimal number of several digits with a zero in front? -/
def isPadded (cs : List Char) : Bool :=
  match cs with
  | '0' :: rest => !rest.isEmpty && rest.all Char.isDigit
  | _ => false

/-- The magnitude of an integer, in any of its bases. -/
def magnitude? (cs : List Char) : Option Nat :=
  match cs with
  | '0' :: 'x' :: rest => natural? 16 rest
  | '0' :: 'o' :: rest => natural? 8 rest
  | '0' :: 'b' :: rest => natural? 2 rest
  | _ => if isPadded cs then none else natural? 10 cs

/-- The sign of a number and the rest of it; a second sign is left there. -/
def sign (cs : List Char) : Bool × List Char :=
  match cs with
  | '+' :: rest => (false, rest)
  | '-' :: rest => (true, rest)
  | _ => (false, cs)

/-- The integer that is spelled, if one is; an error if it fits 128 bits but not 64. -/
def integer? (cs : List Char) : Except Error (Option Int) :=
  let (negative, rest) := sign cs
  match magnitude? rest with
  | none => .ok none
  | some n =>
    let (small, large) :=
      if negative then ((1 <<< 63) + 1, (1 <<< 127) + 1) else (1 <<< 64, 1 <<< 128)
    if n < small then .ok (some (if negative then -n else n))
    else if n < large then .error .integerRange
    else .ok none

/-- The number spelled by digits. -/
def decimal (cs : List Char) : Nat :=
  cs.foldl (fun n c => n * 10 + (c.toNat - '0'.toNat)) 0

/-- The exponent spelled at the end of a number. -/
def exponent? : List Char → Option Int
  | [] => some 0
  | c :: rest =>
    if c == 'e' || c == 'E' then
      let (negative, digits) := sign rest
      if digits.isEmpty || !digits.all Char.isDigit then none
      else some (if negative then -(decimal digits : Int) else decimal digits)
    else none

/-- The finite number spelled with digits, a point and an exponent; digits may be missing on one
side of the point. -/
def finite? (cs : List Char) : Option Binary64 := do
  let (negative, cs) := sign cs
  let whole := cs.takeWhile Char.isDigit
  let rest := cs.dropWhile Char.isDigit
  let (fraction, rest) :=
    match rest with
    | '.' :: rest => (rest.takeWhile Char.isDigit, rest.dropWhile Char.isDigit)
    | _ => ([], rest)
  if whole.isEmpty && fraction.isEmpty then none
  else
    let exponent ← exponent? rest
    Binary64.ofDecimal negative (decimal (whole ++ fraction)) (exponent - fraction.length)

/-- Is it infinite or not a number? A document has no such numbers. -/
def isSpecial (s : String) : Bool :=
  [".inf", ".Inf", ".INF", "+.inf", "+.Inf", "+.INF", "-.inf", "-.Inf", "-.INF",
    ".nan", ".NaN", ".NAN"].contains s

/-- The number that is spelled, if one is; a number that is not finite becomes null. -/
def number? (s : String) : Option Json :=
  if isSpecial s then some .null
  else
    let signed :=
      match s.toList with
      | '+' :: c :: _ => c == '+' || c == '-'
      | _ => false
    if signed then none else (finite? s.toList).map fun x => .number (.float x)

def plain (s : String) : Except Error Json := do
  if s.isEmpty || isNull s then .ok .null
  else
    match bool? s with
    | some b => .ok (.bool b)
    | none =>
      match ← integer? s.toList with
      | some n => .ok (.number (.int n))
      | none =>
        if isPadded (sign s.toList).2 then .ok (.string s)
        else .ok ((number? s).getD (.string s))

/-! ## Tags -/

/-- The common part of the tags that ask for a form. -/
def standard (name : String) : Tag := bytesOf ("tag:yaml.org,2002:" ++ name)

/-- Is it a tag of the document itself, with an exclamation mark in front? -/
def isLocal (tag : Tag) : Bool := tag.head? == some 0x21

def isText (tag : Tag) : Bool := (String.fromUTF8? ⟨tag.toArray⟩).isSome

/-- Are there no values for the tag? -/
def isUnknown (tag : Tag) : Bool := isLocal tag && isText tag

/-- The value of a scalar. A standard tag asks for one form, whatever the quotes; any other tag but
a local one makes a string. -/
def value (tag : Option Tag) (s : String) (isPlain : Bool) : Except Error Json :=
  match tag with
  | none => if isPlain then plain s else .ok (.string s)
  | some tag =>
    if isUnknown tag then .error .unknownTag
    else if tag == standard "bool" then
      match bool? s with
      | some b => .ok (.bool b)
      | none => .error .tagMismatch
    else if tag == standard "int" then do
      match ← integer? s.toList with
      | some n => .ok (.number (.int n))
      | none => .error .tagMismatch
    else if tag == standard "float" then
      match number? s with
      | some x => .ok x
      | none => .error .tagMismatch
    else if tag == standard "null" then
      if isNull s then .ok .null else .error .tagMismatch
    else if isLocal tag && isPlain then plain s
    else .ok (.string s)

end EntityModel.Yaml.Scalar
