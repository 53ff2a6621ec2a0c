import EntityModel.Json.Reader

/-!
# Skipping JSON values

A value that nobody asked for is only checked to be well formed. It may nest to any depth, its
numbers to any size and its escapes to any unit, and a comma before a closing bracket or brace is
told apart less finely than in a value that is read.
-/

namespace EntityModel.Json.Skip

open Reader

/-- Skips an exponent after its letter. -/
def exponent (cs : List Char) : Except Stop (List Char) :=
  let cs :=
    match cs with
    | '+' :: rest => rest
    | '-' :: rest => rest
    | _ => cs
  match cs with
  | [] => stopAt .invalidNumber []
  | c :: rest => if c.isDigit then .ok (rest.dropWhile Char.isDigit) else stopIn .invalidNumber cs

/-- Skips what may follow the digits of a number. -/
def numberEnd : List Char → Except Stop (List Char)
  | 'e' :: rest => exponent rest
  | 'E' :: rest => exponent rest
  | cs => .ok cs

/-- Skips what may follow the whole digits of a number. -/
def wholeEnd : List Char → Except Stop (List Char)
  | '.' :: rest =>
    match rest with
    | [] => stopAt .invalidNumber []
    | c :: _ =>
      if c.isDigit then numberEnd (rest.dropWhile Char.isDigit) else stopIn .invalidNumber rest
  | cs => numberEnd cs

/-- Skips a number after its sign. -/
def number : List Char → Except Stop (List Char)
  | [] => stopAt .invalidNumber []
  | '0' :: rest =>
    match rest with
    | c :: _ => if c.isDigit then stopIn .invalidNumber rest else wholeEnd rest
    | [] => .ok []
  | c :: rest =>
    if c.isDigit then wholeEnd (rest.dropWhile Char.isDigit) else stopIn .invalidNumber (c :: rest)

/-- Skips an escape after its backslash. -/
def escape (cs : List Char) : Except Stop (List Char) :=
  match cs with
  | [] => stopAt .endInString []
  | 'u' :: rest => do
    let (_, rest) ← hexUnit rest
    .ok rest
  | c :: rest =>
    if ['"', '\\', '/', 'b', 'f', 'n', 'r', 't'].contains c then .ok rest
    else stopIn .invalidEscape cs

/-- Skips a string after its opening quote. The fuel is more than the number of characters left;
each step uses up at least one. -/
def string : (fuel : Nat) → List Char → Except Stop (List Char)
  | 0, _ => stopAt .endInString []
  | _ + 1, [] => stopAt .endInString []
  | fuel + 1, c :: rest =>
    if c = '"' then .ok rest
    else if c = '\\' then do
      let rest ← escape rest
      string fuel rest
    else if c.toNat < 0x20 then stopAt .controlCharacter (c :: rest)
    else string fuel rest

/-- Skips a key and its colon. -/
def key (fuel : Nat) (cs : List Char) : Except Stop (List Char) :=
  match skipBlanks cs with
  | [] => stopAt .endInObject []
  | '"' :: rest => do
    let rest ← string fuel rest
    colon rest
  | cs => stopIn .keyNotString cs

mutual

/-- Skips a value. The fuel is more than twice the number of characters left. -/
def value : (fuel : Nat) → List Char → Except Stop (List Char)
  | 0, cs => stopAt .recursionLimit cs
  | fuel + 1, cs =>
    match skipBlanks cs with
    | [] => stopAt .endInValue []
    | c :: rest =>
      match c with
      | 'n' => ident ['u', 'l', 'l'] rest
      | 't' => ident ['r', 'u', 'e'] rest
      | 'f' => ident ['a', 'l', 's', 'e'] rest
      | '-' => number rest
      | '"' => string fuel rest
      | '[' => items fuel true rest
      | '\x7b' => fields fuel true rest
      | _ => if c.isDigit then number (c :: rest) else stopIn .expectedValue (c :: rest)

/-- Skips the items of an array up to its bracket. -/
def items : (fuel : Nat) → (first : Bool) → List Char → Except Stop (List Char)
  | 0, _, cs => stopAt .recursionLimit cs
  | fuel + 1, first, cs =>
    match skipBlanks cs with
    | [] => stopAt .endInList []
    | ']' :: rest => .ok rest
    | cs@(c :: rest) =>
      if first then do
        let rest ← value fuel cs
        items fuel false rest
      else if c = ',' then do
        let rest ← value fuel rest
        items fuel false rest
      else stopIn .expectedListEnd cs

/-- Skips the fields of an object up to its brace. -/
def fields : (fuel : Nat) → (first : Bool) → List Char → Except Stop (List Char)
  | 0, _, cs => stopAt .recursionLimit cs
  | fuel + 1, first, cs =>
    match skipBlanks cs with
    | [] => stopAt .endInObject []
    | '\x7d' :: rest => .ok rest
    | cs@(c :: rest) =>
      if first then do
        let rest ← key fuel cs
        let rest ← value fuel rest
        fields fuel false rest
      else if c = ',' then do
        let rest ← key fuel rest
        let rest ← value fuel rest
        fields fuel false rest
      else stopIn .expectedObjectEnd cs

end

end EntityModel.Json.Skip
