import EntityModel.Yaml.Token

/-!
# Reading YAML names

Anchors, tags and directives: the tokens that are spelled with the characters of words and of URIs.
Escaped octets of a tag are decoded; together they have to look like UTF-8 sequences, and the tag
ends at an escaped zero octet.
-/

namespace EntityModel.Yaml

/-! ## Anchors -/

/-- Characters other than gaps that may follow an anchor or alias. -/
def endsAnchor (c : Char) : Bool :=
  c == '?' || c == ':' || c == ',' || c == ']' || c == '\x7d' || c == '%' || c == '@' || c == '\x60'

/-- Reads the name of an anchor or alias after its indicator. -/
def anchorName (cs : List Char) : Except Error (List Char × List Char) :=
  let name := cs.takeWhile isWord
  let rest := cs.dropWhile isWord
  if name.isEmpty || !(endsWord rest || rest.head?.any endsAnchor) then .error .anchorName
  else .ok (name, rest)

/-! ## Tags -/

/-- The characters of a URI; the flow indicators among them only where `wide` is set. -/
def isUri (wide : Bool) (c : Char) : Bool :=
  isWord c || [';', '/', '?', ':', '@', '&', '=', '+', '$', '.', '%', '!', '~', '*', '\'',
    '(', ')'].contains c || (wide && [',', '[', ']'].contains c)

def octetDigit? (c : Char) : Option Nat :=
  if c.isDigit then some (c.toNat - '0'.toNat)
  else if 'a' ≤ c && c ≤ 'f' then some (c.toNat - 'a'.toNat + 10)
  else if 'A' ≤ c && c ≤ 'F' then some (c.toNat - 'A'.toNat + 10)
  else none

def octet? : List Char → Option (Nat × List Char)
  | '%' :: high :: low :: rest => do
    let high ← octetDigit? high
    let low ← octetDigit? low
    some (high * 16 + low, rest)
  | _ => none

/-- The number of octets in the sequence that starts with an octet. -/
def sequenceLength (octet : Nat) : Nat :=
  if octet < 0x80 then 1
  else if 0xc0 ≤ octet && octet < 0xe0 then 2
  else if 0xe0 ≤ octet && octet < 0xf0 then 3
  else if 0xf0 ≤ octet && octet < 0xf8 then 4
  else 0

/-- Reads escaped octets that continue a sequence. -/
def trailingOctets : (count : Nat) → List Char → Except Error (List UInt8 × List Char)
  | 0, cs => .ok ([], cs)
  | count + 1, cs =>
    match octet? cs with
    | some (octet, rest) =>
      if 0x80 ≤ octet && octet < 0xc0 then do
        let (octets, rest) ← trailingOctets count rest
        .ok (octet.toUInt8 :: octets, rest)
      else .error .tagSyntax
    | none => .error .tagSyntax

/-- Reads one escaped sequence of octets. -/
def escapedOctets (cs : List Char) : Except Error (List UInt8 × List Char) :=
  match octet? cs with
  | some (octet, rest) =>
    match sequenceLength octet with
    | 0 => .error .tagSyntax
    | count + 1 => do
      let (octets, rest) ← trailingOctets count rest
      .ok (octet.toUInt8 :: octets, rest)
  | none => .error .tagSyntax

/-- Reads the characters of a URI. The fuel is the number of characters left. -/
def uriCharacters (wide : Bool) :
    (fuel : Nat) → List Char → Except Error (List UInt8 × List Char)
  | 0, cs => .ok ([], cs)
  | _ + 1, [] => .ok ([], [])
  | fuel + 1, c :: rest =>
    if c == '%' then do
      let (octets, rest) ← escapedOctets (c :: rest)
      let (more, rest) ← uriCharacters wide fuel rest
      .ok (octets ++ more, rest)
    else if isUri wide c then do
      let (more, rest) ← uriCharacters wide fuel rest
      .ok (c.toNat.toUInt8 :: more, rest)
    else .ok ([], c :: rest)

/-- The octets before a zero octet. -/
def upToZero (octets : List UInt8) : List UInt8 := octets.takeWhile (· ≠ 0)

/-- Reads a URI that goes on after `start` and is not empty altogether; of `start`, the first
character does not belong to the URI. -/
def uri (wide : Bool) (start : List Char) (cs : List Char) :
    Except Error (Tag × List Char) := do
  let (octets, rest) ← uriCharacters wide (cs.length + 1) cs
  if start.isEmpty && rest.length == cs.length then .error .tagSyntax
  else .ok (upToZero ((start.drop 1).map (·.toNat.toUInt8) ++ octets), rest)

/-- Reads what may be a tag handle: an exclamation mark, a word and, if it is there, another
exclamation mark. -/
def tagHandle (cs : List Char) : Except Error (List Char × List Char) :=
  match cs with
  | '!' :: rest =>
    let word := rest.takeWhile isWord
    match rest.dropWhile isWord with
    | '!' :: rest => .ok ('!' :: word ++ ['!'], rest)
    | rest => .ok ('!' :: word, rest)
  | _ => .error .tagSyntax

/-- Is the text a handle of the form `!word!` or `!!`? -/
def isNamedHandle (handle : List Char) : Bool :=
  1 < handle.length && handle.getLast? == some '!'

/-- Reads a tag: its handle and its suffix. A verbatim tag and the tag `!` have no handle. -/
def tag (flow : Bool) (cs : List Char) : Except Error (Token × List Char) := do
  let (token, rest) ←
    match cs with
    | '!' :: '<' :: rest => do
      let (suffix, rest) ← uri true [] rest
      match rest with
      | '>' :: rest => .ok (Token.tag [] suffix, rest)
      | _ => .error Error.tagSyntax
    | _ => do
      let (handle, rest) ← tagHandle cs
      if isNamedHandle handle then
        let (suffix, rest) ← uri false [] rest
        .ok (Token.tag handle suffix, rest)
      else
        let (suffix, rest) ← uri false handle rest
        if suffix.isEmpty then .ok (Token.tag [] (bytesOf "!"), rest)
        else .ok (Token.tag ['!'] suffix, rest)
  if endsWord rest || (flow && rest.head? == some ',') then .ok (token, rest)
  else .error .tagSyntax

/-! ## Directives -/

/-- Reads a part of a version, of one to nine digits. -/
def versionNumber (cs : List Char) : Except Error (Nat × List Char) :=
  let digits := cs.takeWhile Char.isDigit
  if digits.isEmpty || 9 < digits.length then .error .directive
  else
    .ok (digits.foldl (fun n c => n * 10 + (c.toNat - '0'.toNat)) 0, cs.dropWhile Char.isDigit)

/-- Reads the version of a version directive. -/
def versionDirective (cs : List Char) : Except Error (Token × List Char) := do
  let (major, rest) ← versionNumber (cs.dropWhile isBlank)
  match rest with
  | '.' :: rest =>
    let (minor, rest) ← versionNumber rest
    .ok (.version major minor, rest)
  | _ => .error .directive

/-- Reads the handle and the expansion of a tag directive. -/
def tagDirective (cs : List Char) : Except Error (Token × List Char) := do
  let (handle, rest) ← tagHandle (cs.dropWhile isBlank)
  if !isNamedHandle handle && handle ≠ ['!'] then .error .directive
  else if !rest.head?.any isBlank then .error .directive
  else
    let (expansion, rest) ← uri true [] (rest.dropWhile isBlank)
    if endsWord rest then .ok (.handle handle expansion, rest) else .error .directive

/-- Reads a directive after its indicator, up to the end of its line. -/
def directive (cs : List Char) : Except Error (Token × List Char) := do
  let name := cs.takeWhile isWord
  let rest := cs.dropWhile isWord
  let (token, rest) ←
    if name.isEmpty || !endsWord rest then .error .directive
    else if name = "YAML".toList then versionDirective rest
    else if name = "TAG".toList then tagDirective rest
    else .error .directive
  let rest := rest.dropWhile isBlank
  let rest := if rest.head? == some '#' then rest.dropWhile (!isBreak ·) else rest
  if endsLine rest then .ok (token, rest) else .error .directive

end EntityModel.Yaml
