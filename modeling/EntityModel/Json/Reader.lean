import EntityModel.Json.Value
import EntityModel.Json.Error
import EntityModel.Text.WhiteSpace

/-!
# Reading JSON text

A reader takes the rest of a text and returns what it read with what is left, or the place where it
stopped. Arrays and objects may nest 127 deep.

A number keeps as many leading digits as fit 64 bits; the digits beyond them only count towards the
power of ten (before the point) or are dropped (after it). The digits are then rounded, and
multiplied or divided by the power of ten with one more rounding.
-/

namespace EntityModel.Json

namespace Reader

/-- Stops at the start of the rest. -/
def stopAt {α : Type} (fault : Fault) (rest : List Char) : Except Stop α :=
  .error ⟨fault, rest, 0⟩

/-- Stops one byte into the rest. -/
def stopIn {α : Type} (fault : Fault) (rest : List Char) : Except Stop α :=
  .error ⟨fault, rest, 1⟩

/-- The text without the blanks at its start. -/
def skipBlanks (cs : List Char) : List Char := cs.dropWhile Text.isJsonBlank

/-- Reads the letters of a literal whose first letter is already read. -/
def ident : (letters cs : List Char) → Except Stop (List Char)
  | [], cs => .ok cs
  | _ :: _, [] => stopAt .endInValue []
  | letter :: letters, c :: cs =>
    if c = letter then ident letters cs else stopIn .expectedIdent (c :: cs)

/-! ## Numbers -/

def digitValue (c : Char) : Nat := c.toNat - '0'.toNat

/-- The greatest number of 64 bits. -/
def maxWord : Nat := UInt64.size - 1

/-- Would the digit push the number beyond 64 bits? -/
def overflows (significand : Nat) (digit : Char) : Bool :=
  decide (maxWord < significand * 10 + digitValue digit)

/-- The greatest power of ten that is a binary64 number. -/
def maxPower : Nat := 308

/-- A power of ten, rounded. -/
def powerOfTen (power : Nat) : Option Binary64 := Binary64.ofNat (Binary64.tenPow power)

/-- Divides by a power of ten, in steps of the greatest one. The fuel bounds the steps; three of
them turn every number of 64 bits into zero. -/
def divideByPower : (fuel : Nat) → Binary64 → (power : Nat) → Option Binary64
  | 0, x, _ => some x
  | fuel + 1, x, power =>
    if power ≤ maxPower then (powerOfTen power).bind x.div
    else if x.mantissa = 0 then some x
    else
      ((powerOfTen maxPower).bind x.div).bind fun y => divideByPower fuel y (power - maxPower)

/-- The number `± significand * 10 ^ exponent`, rounded at each step. -/
def scaled? (negative : Bool) (significand : Nat) (exponent : Int) : Option Binary64 :=
  (Binary64.ofNat significand).bind fun x =>
    (if exponent < 0 then divideByPower 4 x (-exponent).toNat
      else if exponent ≤ maxPower then (powerOfTen exponent.toNat).bind x.mul
      else if significand = 0 then some x
      else none).map (Binary64.withSign negative)

/-- The number whose digits end before `rest`. -/
def scaled (negative : Bool) (significand : Nat) (exponent : Int) (rest : List Char) :
    Except Stop (Number × List Char) :=
  match scaled? negative significand exponent with
  | some x => .ok (.float x, rest)
  | none => stopAt .numberOutOfRange rest

/-- The greatest exponent that is read digit by digit. -/
def maxExponent : Nat := (1 <<< 31) - 1

/-- Reads the digits of an exponent after its first one. -/
def exponentDigits (negative : Bool) (significand : Nat) (start : Int) (down : Bool) :
    (exponent : Nat) → List Char → Except Stop (Number × List Char)
  | exponent, c :: rest =>
    if c.isDigit then
      let next := exponent * 10 + digitValue c
      if maxExponent < next then
        if significand ≠ 0 && !down then stopAt .numberOutOfRange rest
        else .ok (.float (Binary64.zero negative), rest.dropWhile Char.isDigit)
      else exponentDigits negative significand start down next rest
    else
      scaled negative significand (if down then start - exponent else start + exponent) (c :: rest)
  | exponent, [] =>
    scaled negative significand (if down then start - exponent else start + exponent) []

/-- Reads an exponent after its letter; `start` is the power of ten so far. -/
def exponent (negative : Bool) (significand : Nat) (start : Int) (cs : List Char) :
    Except Stop (Number × List Char) :=
  let (down, cs) :=
    match cs with
    | '+' :: rest => (false, rest)
    | '-' :: rest => (true, rest)
    | _ => (false, cs)
  match cs with
  | [] => stopAt .endInValue []
  | c :: rest =>
    if c.isDigit then exponentDigits negative significand start down (digitValue c) rest
    else stopIn .invalidNumber cs

/-- Reads what may follow the digits of a number that is not whole. -/
def fractionEnd (negative : Bool) (significand : Nat) (start : Int) :
    List Char → Except Stop (Number × List Char)
  | 'e' :: rest => exponent negative significand start rest
  | 'E' :: rest => exponent negative significand start rest
  | cs => scaled negative significand start cs

/-- Reads the digits after the point; `count` of them are read and `before` is the power of ten of
the digits in front of the point. -/
def fraction (negative : Bool) (before : Int) :
    (significand count : Nat) → List Char → Except Stop (Number × List Char)
  | significand, count, c :: rest =>
    if c.isDigit then
      if overflows significand c then
        fractionEnd negative significand (before - count) (rest.dropWhile Char.isDigit)
      else fraction negative before (significand * 10 + digitValue c) (count + 1) rest
    else if count = 0 then stopIn .invalidNumber (c :: rest)
    else fractionEnd negative significand (before - count) (c :: rest)
  | significand, count, [] =>
    if count = 0 then stopAt .endInValue []
    else fractionEnd negative significand (before - count) []

/-- Reads on in a whole number too large for 64 bits; `power` digits are not kept. -/
def longWhole (negative : Bool) (significand : Nat) :
    (power : Nat) → List Char → Except Stop (Number × List Char)
  | power, c :: rest =>
    if c.isDigit then longWhole negative significand (power + 1) rest
    else if c = '.' then fraction negative power significand 0 rest
    else fractionEnd negative significand power (c :: rest)
  | power, [] => scaled negative significand power []

/-- A whole number: an integer if it fits 64 bits, and `-0` is not one. -/
def ofWhole (negative : Bool) (significand : Nat) : Number :=
  if !negative then .int significand
  else if significand = 0 || 1 <<< 63 < significand then
    match Binary64.ofNat significand with
    | some x => .float (x.withSign true)
    | none => .float (Binary64.zero true)
  else .int (-significand)

/-- Reads what may follow the whole digits of a number. -/
def wholeEnd (negative : Bool) (significand : Nat) : List Char → Except Stop (Number × List Char)
  | '.' :: rest => fraction negative 0 significand 0 rest
  | 'e' :: rest => exponent negative significand 0 rest
  | 'E' :: rest => exponent negative significand 0 rest
  | cs => .ok (ofWhole negative significand, cs)

/-- Reads the whole digits of a number after the first one. -/
def whole (negative : Bool) :
    (significand : Nat) → List Char → Except Stop (Number × List Char)
  | significand, c :: rest =>
    if c.isDigit then
      if overflows significand c then longWhole negative significand 0 (c :: rest)
      else whole negative (significand * 10 + digitValue c) rest
    else wholeEnd negative significand (c :: rest)
  | significand, [] => wholeEnd negative significand []

/-- Reads a number after its sign. -/
def number (negative : Bool) : List Char → Except Stop (Number × List Char)
  | [] => stopAt .endInValue []
  | '0' :: rest =>
    match rest with
    | c :: _ => if c.isDigit then stopIn .invalidNumber rest else wholeEnd negative 0 rest
    | [] => wholeEnd negative 0 []
  | c :: rest =>
    if c.isDigit then whole negative (digitValue c) rest else stopIn .invalidNumber (c :: rest)

/-! ## Strings -/

def hexValue? (c : Char) : Option Nat :=
  if c.isDigit then some (digitValue c)
  else if 'a' ≤ c && c ≤ 'f' then some (c.toNat - 'a'.toNat + 10)
  else if 'A' ≤ c && c ≤ 'F' then some (c.toNat - 'A'.toNat + 10)
  else none

/-- Reads four bytes as hexadecimal digits. -/
def hexUnit (cs : List Char) : Except Stop (Nat × List Char) :=
  match cs with
  | a :: b :: c :: d :: rest =>
    match hexValue? a, hexValue? b, hexValue? c, hexValue? d with
    | some a, some b, some c, some d => .ok (a * 4096 + b * 256 + c * 16 + d, rest)
    | _, _, _, _ => .error ⟨.invalidEscape, cs, 4⟩
  | _ => if 4 ≤ Text.byteCount cs then .error ⟨.invalidEscape, cs, 4⟩ else stopAt .endInString []

/-- Is the unit the second half of a surrogate pair? -/
def isTrailing (unit : Nat) : Bool := 0xdc00 ≤ unit && unit ≤ 0xdfff

/-- Is the unit the first half of a surrogate pair? -/
def isLeading (unit : Nat) : Bool := 0xd800 ≤ unit && unit ≤ 0xdbff

/-- Reads the second half of a surrogate pair, its escape included. -/
def surrogateEnd (leading : Nat) (cs : List Char) : Except Stop (Char × List Char) :=
  match cs with
  | '\\' :: 'u' :: rest => do
    let (unit, rest) ← hexUnit rest
    if isTrailing unit then
      .ok (Char.ofNat ((leading - 0xd800) * 1024 + (unit - 0xdc00) + 0x10000), rest)
    else stopAt .loneSurrogate rest
  | '\\' :: [] => stopAt .endInString []
  | '\\' :: rest => stopIn .incompleteSurrogates rest
  | [] => stopAt .endInString []
  | _ => stopIn .incompleteSurrogates cs

/-- Reads an escape after its backslash. -/
def escape (cs : List Char) : Except Stop (Char × List Char) :=
  match cs with
  | [] => stopAt .endInString []
  | 'u' :: rest => do
    let (unit, rest) ← hexUnit rest
    if isTrailing unit then stopAt .loneSurrogate rest
    else if isLeading unit then surrogateEnd unit rest
    else .ok (Char.ofNat unit, rest)
  | c :: rest =>
    match c with
    | '"' => .ok ('"', rest)
    | '\\' => .ok ('\\', rest)
    | '/' => .ok ('/', rest)
    | 'b' => .ok ('\x08', rest)
    | 'f' => .ok ('\x0c', rest)
    | 'n' => .ok ('\n', rest)
    | 'r' => .ok ('\r', rest)
    | 't' => .ok ('\t', rest)
    | _ => stopIn .invalidEscape cs

/-- Reads the rest of a string. The fuel is more than the number of characters left; each step uses
up at least one. -/
def stringBody : (fuel : Nat) → List Char → Except Stop (List Char × List Char)
  | 0, _ => stopAt .endInString []
  | _ + 1, [] => stopAt .endInString []
  | fuel + 1, c :: rest =>
    if c = '"' then .ok ([], rest)
    else if c = '\\' then do
      let (escaped, rest) ← escape rest
      let (body, rest) ← stringBody fuel rest
      .ok (escaped :: body, rest)
    else if c.toNat < 0x20 then stopIn .controlCharacter (c :: rest)
    else do
      let (body, rest) ← stringBody fuel rest
      .ok (c :: body, rest)

/-- Reads a string after its opening quote. -/
def string (fuel : Nat) (cs : List Char) : Except Stop (String × List Char) := do
  let (body, rest) ← stringBody fuel cs
  .ok (String.ofList body, rest)

/-! ## Values -/

/-- How deep arrays and objects may nest. -/
def maxDepth : Nat := 127

/-- What comes next in an array or object: its end, with the text behind it, or one more entry, with
the text of that entry. -/
inductive Next where
  | done (rest : List Char)
  | more (rest : List Char)

/-- Reads up to the next item of an array. -/
def nextItem (first : Bool) (cs : List Char) : Except Stop Next :=
  match skipBlanks cs with
  | [] => stopAt .endInList []
  | ']' :: rest => .ok (.done rest)
  | cs@(c :: rest) =>
    if first then .ok (.more cs)
    else if c = ',' then
      match skipBlanks rest with
      | [] => stopAt .endInValue []
      | ']' :: rest => stopIn .trailingComma (']' :: rest)
      | cs => .ok (.more cs)
    else stopIn .expectedListEnd cs

/-- Reads up to the next key of an object, its opening quote included. -/
def nextKey (first : Bool) (cs : List Char) : Except Stop Next :=
  match skipBlanks cs with
  | [] => stopAt .endInObject []
  | '\x7d' :: rest => .ok (.done rest)
  | cs@(c :: rest) =>
    if first then
      if c = '"' then .ok (.more rest) else stopIn .keyNotString cs
    else if c = ',' then
      match skipBlanks rest with
      | [] => stopAt .endInValue []
      | '"' :: rest => .ok (.more rest)
      | '\x7d' :: rest => stopIn .trailingComma ('\x7d' :: rest)
      | cs => stopIn .keyNotString cs
    else stopIn .expectedObjectEnd cs

/-- Reads the colon after a key. -/
def colon (cs : List Char) : Except Stop (List Char) :=
  match skipBlanks cs with
  | [] => stopAt .endInObject []
  | ':' :: rest => .ok rest
  | cs => stopIn .expectedColon cs

mutual

/-- Reads a value; `depth` more levels may be opened. The fuel is more than twice the number of
characters left. -/
def value : (fuel depth : Nat) → List Char → Except Stop (Json × List Char)
  | 0, _, cs => stopAt .recursionLimit cs
  | fuel + 1, depth, cs =>
    match skipBlanks cs with
    | [] => stopAt .endInValue []
    | c :: rest =>
      match c with
      | 'n' => do let rest ← ident ['u', 'l', 'l'] rest; .ok (.null, rest)
      | 't' => do let rest ← ident ['r', 'u', 'e'] rest; .ok (.bool true, rest)
      | 'f' => do let rest ← ident ['a', 'l', 's', 'e'] rest; .ok (.bool false, rest)
      | '-' => do let (n, rest) ← number true rest; .ok (.number n, rest)
      | '"' => do let (s, rest) ← string fuel rest; .ok (.string s, rest)
      | '[' =>
        match depth with
        | 0 => stopIn .recursionLimit (c :: rest)
        | depth + 1 => do
          let (list, rest) ← items fuel depth true rest
          .ok (.array list, rest)
      | '\x7b' =>
        match depth with
        | 0 => stopIn .recursionLimit (c :: rest)
        | depth + 1 => do
          let (pairs, rest) ← fields fuel depth true rest
          .ok (ofPairs pairs, rest)
      | _ =>
        if c.isDigit then do let (n, rest) ← number false (c :: rest); .ok (.number n, rest)
        else stopIn .expectedValue (c :: rest)

/-- Reads the items of an array up to its bracket. -/
def items : (fuel depth : Nat) → (first : Bool) → List Char →
    Except Stop (List Json × List Char)
  | 0, _, _, cs => stopAt .recursionLimit cs
  | fuel + 1, depth, first, cs => do
    match ← nextItem first cs with
    | .done rest => .ok ([], rest)
    | .more cs =>
      let (item, rest) ← value fuel depth cs
      let (list, rest) ← items fuel depth false rest
      .ok (item :: list, rest)

/-- Reads the fields of an object up to its brace. -/
def fields : (fuel depth : Nat) → (first : Bool) → List Char →
    Except Stop (List (String × Json) × List Char)
  | 0, _, _, cs => stopAt .recursionLimit cs
  | fuel + 1, depth, first, cs => do
    match ← nextKey first cs with
    | .done rest => .ok ([], rest)
    | .more cs =>
      let (key, rest) ← string fuel cs
      let rest ← colon rest
      let (item, rest) ← value fuel depth rest
      let (pairs, rest) ← fields fuel depth false rest
      .ok ((key, item) :: pairs, rest)

end

/-- Reads what follows the only value of a text. -/
def textEnd (cs : List Char) : Except Stop Unit :=
  match skipBlanks cs with
  | [] => .ok ()
  | cs => stopIn .trailingCharacters cs

/-- Reads a whole text with a reader of its value. -/
def readWith {α : Type} (reader : List Char → Except Stop (α × List Char)) (text : List Char) :
    Except Error α :=
  match (do let (result, rest) ← reader text; textEnd rest; .ok result : Except Stop α) with
  | .ok result => .ok result
  | .error stop => .error (Error.ofStop text stop)

end Reader

def read (text : String) : Except Error Json :=
  Reader.readWith (Reader.value (2 * text.toList.length + 2) Reader.maxDepth) text.toList

end EntityModel.Json
