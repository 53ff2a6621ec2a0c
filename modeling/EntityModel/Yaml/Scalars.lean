import EntityModel.Yaml.Folding

/-!
# Reading YAML scalars

The four forms of a scalar: plain, quoted with one quote, quoted with two, and the block forms that
keep or fold their lines. Each reader takes a cursor at the start of the scalar and returns its text
with the cursor behind it. Fuel is always more than the number of characters left.
-/

namespace EntityModel.Yaml

/-! ## Plain scalars -/

/-- The indicators that end a plain scalar inside brackets or braces. -/
def isFlowIndicator (c : Char) : Bool :=
  c == ',' || c == '[' || c == ']' || c == '\x7b' || c == '\x7d'

/-- Reads a word of a plain scalar. -/
def plainWord (flow : Bool) : List Char → Except Error (List Char)
  | [] => .ok []
  | c :: rest =>
    if isGap c then .ok []
    else if flow && c == ':' && rest.head?.any (fun d => isFlowIndicator d || d == '?') then
      .error .colonInFlow
    else if (c == ':' && endsWord rest) || (flow && isFlowIndicator c) then .ok []
    else do
      let word ← plainWord flow rest
      .ok (c :: word)

/-- Reads on in a plain scalar, after a gap. Returns also the last gap, which is not part of the
text. -/
def plainWords (flow : Bool) (indent : Nat) :
    (fuel : Nat) → Gap → Cursor → Except Error (List Char × Gap × Cursor)
  | 0, gap, cur => .ok ([], gap, cur)
  | fuel + 1, gap, cur =>
    if cur.atDocumentMark || cur.rest.head? == some '#' then .ok ([], gap, cur)
    else do
      let word ← plainWord flow cur.rest
      let cur := cur.skip word.length
      let (start, gap) := if word.isEmpty then ([], gap) else (gap.text ++ word, {})
      if endsWord cur.rest && !cur.rest.isEmpty then
        let (gap, cur) ← gap.read indent fuel cur
        if !flow && cur.column < indent then .ok (start, gap, cur)
        else
          let (text, gap, cur) ← plainWords flow indent fuel gap cur
          .ok (start ++ text, gap, cur)
      else .ok (start, gap, cur)

/-- Reads a plain scalar; `indent` is the least column of its further lines. Returns also whether
its last line is ended. -/
def plainScalar (flow : Bool) (indent fuel : Nat) (cur : Cursor) :
    Except Error (List Char × Bool × Cursor) := do
  let (text, gap, cur) ← plainWords flow indent fuel {} cur
  .ok (text, gap.broken, cur)

/-! ## Quoted scalars -/

def hexDigit? (c : Char) : Option Nat :=
  if c.isDigit then some (c.toNat - '0'.toNat)
  else if 'a' ≤ c && c ≤ 'f' then some (c.toNat - 'a'.toNat + 10)
  else if 'A' ≤ c && c ≤ 'F' then some (c.toNat - 'A'.toNat + 10)
  else none

/-- Reads a number of hexadecimal digits. -/
def hexDigits : (count value : Nat) → List Char → Option Nat
  | 0, value, _ => some value
  | count + 1, value, c :: rest => do
    let digit ← hexDigit? c
    hexDigits count (value * 16 + digit) rest
  | _ + 1, _, [] => none

/-- Reads the number of an escaped character. -/
def escapedNumber (digits : Nat) (cs : List Char) : Except Error (Char × Nat) :=
  match hexDigits digits 0 cs with
  | some n => if n.isValidChar then .ok (Char.ofNat n, digits + 1) else .error .escape
  | none => .error .escape

/-- Reads an escape after its backslash: the character, and how many characters it is spelled
with. -/
def escape : List Char → Except Error (Char × Nat)
  | [] => .error .escape
  | c :: rest =>
    match c with
    | '0' => .ok ('\x00', 1)
    | 'a' => .ok ('\x07', 1)
    | 'b' => .ok ('\x08', 1)
    | 't' => .ok ('\t', 1)
    | '\t' => .ok ('\t', 1)
    | 'n' => .ok ('\n', 1)
    | 'v' => .ok ('\x0b', 1)
    | 'f' => .ok ('\x0c', 1)
    | 'r' => .ok ('\r', 1)
    | 'e' => .ok ('\x1b', 1)
    | ' ' => .ok (' ', 1)
    | '"' => .ok ('"', 1)
    | '/' => .ok ('/', 1)
    | '\\' => .ok ('\\', 1)
    | 'N' => .ok ('\x85', 1)
    | '_' => .ok ('\xa0', 1)
    | 'L' => .ok ('\u2028', 1)
    | 'P' => .ok ('\u2029', 1)
    | 'x' => escapedNumber 2 rest
    | 'u' => escapedNumber 4 rest
    | 'U' => escapedNumber 8 rest
    | _ => .error .escape

def quote (single : Bool) : Char := if single then '\'' else '"'

/-- Reads a word of a quoted scalar, up to a gap, the closing quote or an escaped line break. -/
def quotedWord (single : Bool) : (fuel : Nat) → Cursor → Except Error (List Char × Cursor)
  | 0, cur => .ok ([], cur)
  | fuel + 1, cur =>
    match cur.rest with
    | [] => .ok ([], cur)
    | c :: rest =>
      if isGap c then .ok ([], cur)
      else if single && c == '\'' && rest.head? == some '\'' then do
        let (word, cur) ← quotedWord single fuel (cur.skip 2)
        .ok ('\'' :: word, cur)
      else if c == quote single then .ok ([], cur)
      else if !single && c == '\\' then
        if rest.head?.any isBreak then .ok ([], cur)
        else do
          let (escaped, count) ← escape rest
          let (word, cur) ← quotedWord single fuel (cur.skip (count + 1))
          .ok (escaped :: word, cur)
      else do
        let (word, cur) ← quotedWord single fuel (cur.skip 1)
        .ok (c :: word, cur)

/-- Reads on in a quoted scalar and over its closing quote. -/
def quotedWords (single : Bool) : (fuel : Nat) → Cursor → Except Error (List Char × Cursor)
  | 0, _ => .error .unterminatedScalar
  | fuel + 1, cur =>
    if cur.atDocumentMark then .error .documentIndicator
    else do
      let (word, cur) ← quotedWord single (fuel + 1) cur
      match cur.rest with
      | [] => .error .unterminatedScalar
      | c :: _ =>
        if c == quote single then .ok (word, cur.skip 1)
        else
          let (gap, cur) :=
            if c == '\\' then ({ broken := true : Gap }, (cur.skip 1).skipLine) else ({}, cur)
          let (gap, cur) ← gap.read 0 fuel cur
          let (text, cur) ← quotedWords single fuel cur
          .ok (word ++ gap.text ++ text, cur)

def quotedScalar (single : Bool) (fuel : Nat) (cur : Cursor) :
    Except Error (List Char × Cursor) :=
  quotedWords single fuel (cur.skip 1)

/-! ## Block scalars -/

/-- What becomes of the line breaks at the end of a block scalar. -/
inductive Chomping where
  | strip
  | clip
  | keep
  deriving DecidableEq, Repr

/-- Reads the chomping indicator of a header. -/
def chomping? : List Char → Option (Chomping × List Char)
  | '+' :: rest => some (.keep, rest)
  | '-' :: rest => some (.strip, rest)
  | _ => none

/-- Reads the indentation indicator of a header, which is not zero. -/
def indentation? : List Char → Except Error (Nat × List Char)
  | c :: rest =>
    if c == '0' then .error .blockHeader
    else if c.isDigit then .ok (c.toNat - '0'.toNat, rest)
    else .ok (0, c :: rest)
  | [] => .ok (0, [])

/-- Reads the two indicators of a header, in any order; no indentation is zero. -/
def blockHeader (cs : List Char) : Except Error (Chomping × Nat × List Char) :=
  match chomping? cs with
  | some (chomping, rest) => do
    let (increment, rest) ← indentation? rest
    .ok (chomping, increment, rest)
  | none => do
    let (increment, rest) ← indentation? cs
    if increment = 0 then .ok (.clip, 0, rest)
    else
      match chomping? rest with
      | some (chomping, rest) => .ok (chomping, increment, rest)
      | none => .ok (.clip, increment, rest)

/-- Reads indentation and empty lines up to a line with text. While `indent` is zero the indentation
is not known and spaces are read to any column; `most` is the greatest column. -/
def blockBreaks (indent : Nat) :
    (fuel most : Nat) → (breaks : List Char) → Cursor → Except Error (Nat × List Char × Cursor)
  | 0, most, breaks, cur => .ok (most, breaks, cur)
  | fuel + 1, most, breaks, cur =>
    let spaces := (cur.rest.takeWhile (· == ' ')).length
    let cur := cur.skip (if indent = 0 then spaces else min spaces (indent - cur.column))
    let most := max most cur.column
    if (indent = 0 || cur.column < indent) && cur.rest.head? == some '\t' then
      .error .tabIndentation
    else
      match cur.lineBreak? with
      | some c => blockBreaks indent fuel most (breaks ++ [c]) cur.skipLine
      | none => .ok (most, breaks, cur)

/-- What stands between two lines of a block scalar. A folded break is a space, or nothing before
further breaks, unless one of the lines starts with a blank. -/
def blockJoin (literal blankBefore blankAfter : Bool) (first : Option Char)
    (breaks : List Char) : List Char :=
  if !literal && first == some '\n' && !blankBefore && !blankAfter then
    if breaks.isEmpty then [' '] else breaks
  else first.toList ++ breaks

/-- Reads the lines of a block scalar. `first` is the break that ended the last line, `breaks` the
ones after it, and `blank` tells whether that line started with a blank. Returns also the breaks at
the end. -/
def blockLines (literal : Bool) (indent : Nat) :
    (fuel : Nat) → (first : Option Char) → (breaks : List Char) → (blank : Bool) → Cursor →
      Except Error (List Char × Option Char × List Char × Cursor)
  | 0, first, breaks, _, cur => .ok ([], first, breaks, cur)
  | fuel + 1, first, breaks, blank, cur =>
    match cur.rest with
    | [] => .ok ([], first, breaks, cur)
    | c :: _ =>
      if cur.column ≠ indent then .ok ([], first, breaks, cur)
      else do
        let line := cur.rest.takeWhile (!isBreak ·)
        let start := blockJoin literal blank (isBlank c) first breaks ++ line
        let cur := cur.skip line.length
        let first := cur.lineBreak?
        let cur := cur.skipLine
        let (_, breaks, cur) ← blockBreaks indent (fuel + 1) 0 [] cur
        let (text, first, breaks, cur) ← blockLines literal indent fuel first breaks (isBlank c) cur
        .ok (start ++ text, first, breaks, cur)

/-- Reads a block scalar; `parent` is the indentation of the collection that holds it. -/
def blockScalar (literal : Bool) (parent : Int) (fuel : Nat) (cur : Cursor) :
    Except Error (List Char × Cursor) := do
  let cur := cur.skip 1
  let (chomping, increment, rest) ← blockHeader cur.rest
  let cur := (cur.moveTo rest).skipWhile isBlank
  let cur := if cur.rest.head? == some '#' then cur.skipWhile (!isBreak ·) else cur
  if !endsLine cur.rest then .error .blockHeader
  else
    let cur := cur.skipLine
    let given := if increment = 0 then 0 else (max parent 0).toNat + increment
    let (most, breaks, cur) ← blockBreaks given fuel 0 [] cur
    let indent := if given = 0 then max (max most (parent + 1).toNat) 1 else given
    let (text, first, breaks, cur) ←
      blockLines literal indent fuel none breaks false cur
    let tail :=
      match chomping with
      | .strip => []
      | .clip => first.toList
      | .keep => first.toList ++ breaks
    .ok (text ++ tail, cur)

end EntityModel.Yaml
