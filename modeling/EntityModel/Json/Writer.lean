import EntityModel.Json.Value

/-!
# JSON text

Two layouts of one value: the compact text, without any blank, and the indented text, with two
spaces a level and one item a line. A string escapes the quote, the backslash and the control
characters below the space; every other character stands for itself.
-/

namespace EntityModel.Json

/-- The lower case hexadecimal digits of a number below 256. -/
def hexByte (n : Nat) : List Char := [Nat.digitChar (n / 16), Nat.digitChar (n % 16)]

/-- A character as it stands in a JSON string. -/
def escapeChar (c : Char) : List Char :=
  if c = '"' then ['\\', '"']
  else if c = '\\' then ['\\', '\\']
  else if c.toNat < 0x20 then
    match c.toNat with
    | 8 => ['\\', 'b']
    | 9 => ['\\', 't']
    | 10 => ['\\', 'n']
    | 12 => ['\\', 'f']
    | 13 => ['\\', 'r']
    | n => '\\' :: 'u' :: '0' :: '0' :: hexByte n
  else [c]

def quote (s : String) : String :=
  String.ofList ('"' :: s.toList.flatMap escapeChar ++ ['"'])

mutual

/-- The compact text of a value. -/
def render : Json → String
  | .null => "null"
  | .bool true => "true"
  | .bool false => "false"
  | .number n => n.text
  | .string s => quote s
  | .array items => "[" ++ renderItems items ++ "]"
  | .object fields => "\x7b" ++ renderFields fields ++ "\x7d"

def renderItems : List Json → String
  | [] => ""
  | [item] => render item
  | item :: rest => render item ++ "," ++ renderItems rest

def renderFields : List (String × Json) → String
  | [] => ""
  | [(key, value)] => quote key ++ ":" ++ render value
  | (key, value) :: rest => quote key ++ ":" ++ render value ++ "," ++ renderFields rest

end

/-- A line break and the indentation of a level. -/
def newline (level : Nat) : String := String.ofList ('\n' :: List.replicate (2 * level) ' ')

mutual

/-- The indented text of a value that stands at the given level. -/
def prettyAt : Nat → Json → String
  | _, .array [] => "[]"
  | level, .array items => "[" ++ prettyItems (level + 1) items ++ newline level ++ "]"
  | _, .object [] => "\x7b\x7d"
  | level, .object fields =>
    "\x7b" ++ prettyFields (level + 1) fields ++ newline level ++ "\x7d"
  | _, .null => "null"
  | _, .bool true => "true"
  | _, .bool false => "false"
  | _, .number n => n.text
  | _, .string s => quote s

/-- The items at a level, each on a line of its own. -/
def prettyItems : Nat → List Json → String
  | _, [] => ""
  | level, [item] => newline level ++ prettyAt level item
  | level, item :: rest => newline level ++ prettyAt level item ++ "," ++ prettyItems level rest

/-- The fields at a level, each on a line of its own. -/
def prettyFields : Nat → List (String × Json) → String
  | _, [] => ""
  | level, [(key, value)] => newline level ++ quote key ++ ": " ++ prettyAt level value
  | level, (key, value) :: rest =>
    newline level ++ quote key ++ ": " ++ prettyAt level value ++ "," ++ prettyFields level rest

end

/-- The indented text of a value. -/
def pretty (value : Json) : String := prettyAt 0 value

end EntityModel.Json
