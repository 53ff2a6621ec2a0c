import EntityModel.Text.Bytes
import EntityModel.Yaml.Error

/-!
# Places in a YAML text

A cursor is the rest of a text with the place at which it starts. Columns count characters, and the
place in the whole text counts bytes. A carriage return with its line feed is one line break; the
two separators of Unicode and the next line character break a line too.
-/

namespace EntityModel.Yaml

/-- May the character stand in a YAML text at all? -/
def isAllowed (c : Char) : Bool :=
  let n := c.toNat
  n == 0x9 || n == 0xa || n == 0xd || (0x20 ≤ n && n ≤ 0x7e) || n == 0x85 ||
    (0xa0 ≤ n && n ≤ 0xd7ff) || (0xe000 ≤ n && n ≤ 0xfffd) || 0x10000 ≤ n

/-- Does the character break a line? -/
def isBreak (c : Char) : Bool :=
  c == '\n' || c == '\r' || c == '\x85' || c == '\u2028' || c == '\u2029'

def isBlank (c : Char) : Bool := c == ' ' || c == '\t'

def isGap (c : Char) : Bool := isBlank c || isBreak c

def isWord (c : Char) : Bool := c.isAlphanum || c == '_' || c == '-'

/-- Does a word end here: at a gap or at the end of the text? -/
def endsWord : List Char → Bool
  | [] => true
  | c :: _ => isGap c

/-- Does a line end here? -/
def endsLine : List Char → Bool
  | [] => true
  | c :: _ => isBreak c

/-- Is this one of the marks between documents, as the first thing of a line? -/
def isDocumentMark : List Char → Bool
  | '-' :: '-' :: '-' :: rest => endsWord rest
  | '.' :: '.' :: '.' :: rest => endsWord rest
  | _ => false

/-- The rest of a text and its place. -/
structure Cursor where
  rest : List Char
  /-- The number of bytes before the rest. -/
  index : Nat := 0
  line : Nat := 0
  column : Nat := 0
  deriving Repr

namespace Cursor

/-- Goes on by some characters of the line. -/
def skip (cur : Cursor) (count : Nat) : Cursor :=
  { cur with
    rest := cur.rest.drop count
    index := cur.index + Text.byteCount (cur.rest.take count)
    column := cur.column + count }

/-- Goes on over the characters of the line that satisfy `p`. -/
def skipWhile (cur : Cursor) (p : Char → Bool) : Cursor :=
  cur.skip (cur.rest.takeWhile p).length

/-- Goes on to the rest, which is on the same line. -/
def moveTo (cur : Cursor) (rest : List Char) : Cursor := cur.skip (cur.rest.length - rest.length)

/-- Goes on over a line break, if there is one here. -/
def skipLine (cur : Cursor) : Cursor :=
  match cur.rest with
  | '\r' :: '\n' :: rest => ⟨rest, cur.index + 2, cur.line + 1, 0⟩
  | c :: rest => if isBreak c then ⟨rest, cur.index + c.utf8Size, cur.line + 1, 0⟩ else cur
  | [] => cur

/-- The line break here, as a scalar keeps it. -/
def lineBreak? (cur : Cursor) : Option Char :=
  match cur.rest with
  | c :: _ =>
    if c == '\u2028' || c == '\u2029' then some c
    else if isBreak c then some '\n'
    else none
  | [] => none

def atBreak (cur : Cursor) : Bool := cur.lineBreak?.isSome

/-- Does a mark between documents stand here? -/
def atDocumentMark (cur : Cursor) : Bool := cur.column == 0 && isDocumentMark cur.rest

end Cursor

end EntityModel.Yaml
