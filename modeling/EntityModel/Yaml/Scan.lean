import EntityModel.Yaml.Names
import EntityModel.Yaml.Scalars

/-!
# From text to tokens

The tokens of a text, in order. A key is recognised only at the colon behind it: until then the
scanner remembers, for each level of brackets and braces, where the last token stands that could be
a key. Such a key lies on one line and has at most 1024 bytes; at the indentation of its collection
it must turn out to be one.
-/

namespace EntityModel.Yaml

/-- A token that a colon may still make a key. -/
structure KeyCandidate where
  /-- Must it turn out to be a key? -/
  required : Bool
  /-- The number of tokens before it. -/
  position : Nat
  /-- The number of bytes before it. -/
  index : Nat
  line : Nat
  column : Nat
  deriving Repr

/-- How far a text is scanned. -/
structure Scan where
  cur : Cursor
  tokens : Array Token := #[]
  /-- The column of the innermost block collection. -/
  indent : Int := -1
  /-- The columns of the collections around it. -/
  indents : List Int := []
  /-- The candidate of the innermost brackets or braces, and those around them. -/
  candidate : Option KeyCandidate := none
  candidates : List (Option KeyCandidate) := []
  /-- May a key start here? -/
  keyAllowed : Bool := true

namespace Scan

/-- Are brackets or braces open? -/
def inFlow (s : Scan) : Bool := !s.candidates.isEmpty

def push (s : Scan) (token : Token) : Scan := { s with tokens := s.tokens.push token }

/-- Adds a token of some characters of the line and goes on behind it. -/
def pushSkip (s : Scan) (token : Token) (count : Nat) : Scan :=
  { s with tokens := s.tokens.push token, cur := s.cur.skip count }

/-- Goes on over blanks, comments and line breaks to the next token. The fuel is more than the
number of characters left. -/
def skipGap : (fuel : Nat) → Scan → Scan
  | 0, s => s
  | fuel + 1, s =>
    let cur := s.cur
    let cur := if cur.column == 0 && cur.rest.head? == some '\ufeff' then cur.skip 1 else cur
    let tabs := s.inFlow || !s.keyAllowed
    let cur := cur.skipWhile fun c => c == ' ' || (tabs && c == '\t')
    let cur := if cur.rest.head? == some '#' then cur.skipWhile (!isBreak ·) else cur
    if cur.atBreak then
      skipGap fuel { s with cur := cur.skipLine, keyAllowed := s.keyAllowed || !s.inFlow }
    else { s with cur }

/-- Can the candidate not become a key any more? -/
def isStale (s : Scan) (key : KeyCandidate) : Bool :=
  key.line < s.cur.line || key.index + 1024 < s.cur.index

/-- Forgets a candidate that is stale. -/
def fresh (s : Scan) : Option KeyCandidate → Except Error (Option KeyCandidate)
  | some key =>
    if s.isStale key then if key.required then .error .missingColon else .ok none
    else .ok (some key)
  | none => .ok none

/-- Forgets the candidates that are stale. -/
def dropStale (s : Scan) : Except Error Scan := do
  let candidate ← s.fresh s.candidate
  let candidates ← s.candidates.mapM s.fresh
  .ok { s with candidate, candidates }

/-- Gives up the innermost candidate. -/
def dropCandidate (s : Scan) : Except Error Scan :=
  if s.candidate.any (·.required) then .error .missingColon
  else .ok { s with candidate := none }

/-- Remembers the next token as a candidate, if a key may start here. -/
def saveCandidate (s : Scan) : Except Error Scan := do
  if s.keyAllowed then
    let required := !s.inFlow && s.indent == (s.cur.column : Int)
    let s ← s.dropCandidate
    .ok { s with
      candidate := some
        ⟨required, s.tokens.size, s.cur.index, s.cur.line, s.cur.column⟩ }
  else .ok s

/-- Opens a block collection at a column beyond the current one; its start token goes to the given
position. -/
def openBlock (s : Scan) (column position : Nat) (token : Token) : Scan :=
  if !s.inFlow && s.indent < column then
    { s with
      indents := s.indent :: s.indents
      indent := column
      tokens := s.tokens.insertIdxIfInBounds position token }
  else s

/-- Closes the block collections beyond a column. -/
def closeBlocks (column : Int) (s : Scan) : Scan :=
  if s.inFlow then s else go s.indents s
where
  /-- Closes the innermost collection and goes on with those around it. -/
  go : List Int → Scan → Scan
    | outer :: indents, s =>
      if column < s.indent then go indents { s.push .blockEnd with indent := outer, indents }
      else s
    | [], s => s

/-- Ends everything that a directive or a mark between documents ends. -/
def endDocument (s : Scan) : Except Error Scan := do
  let s ← (s.closeBlocks (-1)).dropCandidate
  .ok { s with keyAllowed := false }

def openFlow (s : Scan) (token : Token) : Except Error Scan := do
  let s ← s.saveCandidate
  .ok ({ s with
    candidate := none
    candidates := s.candidate :: s.candidates
    keyAllowed := true }.pushSkip token 1)

def closeFlow (s : Scan) (token : Token) : Except Error Scan := do
  let s ← s.dropCandidate
  let s :=
    match s.candidates with
    | candidate :: candidates => { s with candidate, candidates }
    | [] => s
  .ok ({ s with keyAllowed := false }.pushSkip token 1)

def flowEntry (s : Scan) : Except Error Scan := do
  let s ← s.dropCandidate
  .ok ({ s with keyAllowed := true }.pushSkip .flowEntry 1)

/-- Scans the hyphen of an entry. Inside brackets it is left to the reader of the tokens. -/
def blockEntry (s : Scan) : Except Error Scan := do
  if !s.inFlow && !s.keyAllowed then .error .entryNotAllowed
  else
    let s ← (s.openBlock s.cur.column s.tokens.size .blockSequenceStart).dropCandidate
    .ok ({ s with keyAllowed := true }.pushSkip .blockEntry 1)

def key (s : Scan) : Except Error Scan := do
  if !s.inFlow && !s.keyAllowed then .error .keyNotAllowed
  else
    let s ← (s.openBlock s.cur.column s.tokens.size .blockMappingStart).dropCandidate
    .ok ({ s with keyAllowed := !s.inFlow }.pushSkip .key 1)

/-- Scans the colon of a value, which makes the candidate a key. -/
def value (s : Scan) : Except Error Scan :=
  match s.candidate with
  | some candidate =>
    let s := { s with tokens := s.tokens.insertIdxIfInBounds candidate.position .key }
    let s := s.openBlock candidate.column candidate.position .blockMappingStart
    .ok ({ s with candidate := none, keyAllowed := false }.pushSkip .value 1)
  | none =>
    if !s.inFlow && !s.keyAllowed then .error .valueNotAllowed
    else
      let s := s.openBlock s.cur.column s.tokens.size .blockMappingStart
      .ok ({ s with keyAllowed := !s.inFlow }.pushSkip .value 1)

/-- Adds a token that may be a key or stand before one, read up to `rest`. -/
def pushWord (s : Scan) (token : Token) (rest : List Char) : Scan :=
  { s.push token with cur := s.cur.moveTo rest, keyAllowed := false }

def pushScalar (s : Scan) (text : List Char) (plain keyAllowed : Bool) (cur : Cursor) : Scan :=
  { s.push (.scalar text plain) with cur, keyAllowed }

/-- Is this the start of a plain scalar? -/
def startsPlain (inFlow : Bool) (c : Char) (rest : List Char) : Bool :=
  !(['-', '?', ':', ',', '[', ']', '\x7b', '\x7d', '#', '&', '*', '!', '|', '>', '\'', '"', '%',
      '@', '\x60'].contains c || isGap c) ||
    (c == '-' && !rest.head?.any isBlank) ||
    (!inFlow && (c == '?' || c == ':') && !endsWord rest)

/-- Scans one token, whose first character is `c`. The fuel is more than the number of characters
left. -/
def token (s : Scan) (fuel : Nat) (c : Char) (rest : List Char) : Except Error Scan := do
  let flow := s.inFlow
  if s.cur.column == 0 && c == '%' then
    let s ← s.endDocument
    let (token, rest) ← directive rest
    .ok { s.push token with cur := (s.cur.moveTo rest).skipLine }
  else if s.cur.atDocumentMark then
    let s ← s.endDocument
    .ok (s.pushSkip (if c == '-' then .documentStart else .documentEnd) 3)
  else if c == '[' then s.openFlow .flowSequenceStart
  else if c == '\x7b' then s.openFlow .flowMappingStart
  else if c == ']' then s.closeFlow .flowSequenceEnd
  else if c == '\x7d' then s.closeFlow .flowMappingEnd
  else if c == ',' then s.flowEntry
  else if c == '-' && endsWord rest then s.blockEntry
  else if c == '?' && (flow || endsWord rest) then s.key
  else if c == ':' && (flow || endsWord rest) then s.value
  else if c == '*' then
    let s ← s.saveCandidate
    let (name, rest) ← anchorName rest
    .ok (s.pushWord (.alias name) rest)
  else if c == '&' then
    let s ← s.saveCandidate
    let (name, rest) ← anchorName rest
    .ok (s.pushWord (.anchor name) rest)
  else if c == '!' then
    let s ← s.saveCandidate
    let (token, rest) ← tag flow s.cur.rest
    .ok (s.pushWord token rest)
  else if (c == '|' || c == '>') && !flow then
    let s ← s.dropCandidate
    let (text, cur) ← blockScalar (c == '|') s.indent fuel s.cur
    .ok (s.pushScalar text false true cur)
  else if c == '\'' || c == '"' then
    let s ← s.saveCandidate
    let (text, cur) ← quotedScalar (c == '\'') fuel s.cur
    .ok (s.pushScalar text false false cur)
  else if startsPlain flow c rest then
    let s ← s.saveCandidate
    let (text, ended, cur) ← plainScalar flow (s.indent + 1).toNat fuel s.cur
    .ok (s.pushScalar text true ended cur)
  else .error .noToken

/-- Scans the rest of a text. The fuel is more than the number of characters left; each token uses
up at least one. -/
def run : (fuel : Nat) → Scan → Except Error Scan
  | 0, s => .ok s
  | fuel + 1, s => do
    let s := s.skipGap (fuel + 1)
    let s ← s.dropStale
    let s := s.closeBlocks s.cur.column
    match s.cur.rest with
    | [] => s.endDocument
    | c :: rest =>
      let s ← s.token (fuel + 1) c rest
      run fuel s

end Scan

def tokens (text : List Char) : Except Error (List Token) := do
  if !text.all isAllowed then .error .forbiddenCharacter
  else
    let s ← Scan.run (text.length + 1) { cur := { rest := text } }
    .ok s.tokens.toList

end EntityModel.Yaml
