import EntityModel.Text.Bytes

/-!
# What is wrong with a JSON text, and where

A fault is found at a place in the text. While reading, the place is the rest of the text together
with a number of bytes to go beyond its start; only the finished error turns it into a line and a
column. Lines count from one and columns are the bytes since the last line break.
-/

namespace EntityModel.Json

/-- The causes for which a text is refused. -/
inductive Fault where
  | endInList
  | endInObject
  | endInString
  | endInValue
  | expectedColon
  | expectedListEnd
  | expectedObjectEnd
  | expectedIdent
  | expectedValue
  | invalidEscape
  | invalidNumber
  | numberOutOfRange
  | controlCharacter
  | keyNotString
  | loneSurrogate
  | incompleteSurrogates
  | trailingComma
  | trailingCharacters
  | recursionLimit
  /-- A value of another kind than the one that was asked for. -/
  | wrongType (found expected : String)
  | duplicateField (name : String)
  deriving DecidableEq, Repr

def Fault.message : Fault → String
  | .endInList => "EOF while parsing a list"
  | .endInObject => "EOF while parsing an object"
  | .endInString => "EOF while parsing a string"
  | .endInValue => "EOF while parsing a value"
  | .expectedColon => "expected \x60:\x60"
  | .expectedListEnd => "expected \x60,\x60 or \x60]\x60"
  | .expectedObjectEnd => "expected \x60,\x60 or \x60\x7d\x60"
  | .expectedIdent => "expected ident"
  | .expectedValue => "expected value"
  | .invalidEscape => "invalid escape"
  | .invalidNumber => "invalid number"
  | .numberOutOfRange => "number out of range"
  | .controlCharacter => "control character (\\u0000-\\u001F) found while parsing a string"
  | .keyNotString => "key must be a string"
  | .loneSurrogate => "lone leading surrogate in hex escape"
  | .incompleteSurrogates => "unexpected end of hex escape"
  | .trailingComma => "trailing comma"
  | .trailingCharacters => "trailing characters"
  | .recursionLimit => "recursion limit exceeded"
  | .wrongType found expected => "invalid type: " ++ found ++ ", expected " ++ expected
  | .duplicateField name => "duplicate field \x60" ++ name ++ "\x60"

/-- A fault at a place: `ahead` bytes beyond the start of `rest`, but not beyond its end. -/
structure Stop where
  fault : Fault
  rest : List Char
  ahead : Nat
  deriving DecidableEq, Repr

structure Error where
  fault : Fault
  line : Nat
  column : Nat
  deriving DecidableEq, Repr

/-- The line and column after `bytes` bytes of a text, counting on from a line and column. -/
def advance : List Char → (bytes line column : Nat) → Nat × Nat
  | [], _, line, column => (line, column)
  | c :: rest, bytes, line, column =>
    if bytes < c.utf8Size then (line, column + bytes)
    else if c = '\n' then advance rest (bytes - 1) (line + 1) 0
    else advance rest (bytes - c.utf8Size) line (column + c.utf8Size)

namespace Error

/-- The error of a text in which reading stopped. -/
def ofStop (text : List Char) (stop : Stop) : Error :=
  let bytes := Text.byteCount text - Text.byteCount stop.rest + stop.ahead
  let (line, column) := advance text bytes 1 0
  ⟨stop.fault, line, column⟩

def message (e : Error) : String :=
  e.fault.message ++ " at line " ++ toString e.line ++ " column " ++ toString e.column

end Error

end EntityModel.Json
