import EntityModel.Text.GraphemeExtend
import EntityModel.Text.Unprintable

/-!
# Strings quoted in messages

A message that names a string shows it between quotes. A quote, a backslash and the usual control
characters have their short escapes. Characters that cannot be seen on their own (unprintable ones,
those that join the character before them, and the fillers of Hangul) are shown by their code point.
-/

namespace EntityModel.Text

/-- A letter that fills the place of a Hangul letter and leaves it empty: the letters that Unicode
calls ignorable by default. -/
def isFiller (c : Char) : Bool :=
  c == '\u115f' || c == '\u1160' || c == '\u3164' || c == '\uffa0'

/-- A halfwidth sound mark of Katakana: a letter that extends the one before it but has a place of
its own. -/
def isSoundMark (c : Char) : Bool := c == '\uff9e' || c == '\uff9f'

/-- Is the character shown by its code point? -/
def isHidden (c : Char) : Bool :=
  isUnprintable c || isFiller c || (isGraphemeExtend c && !isSoundMark c)

example : isHidden 'é' = false ∧ isHidden '\uff9e' = false := by decide +kernel
example : isHidden '\u0301' = true ∧ isHidden '\u1160' = true := by decide +kernel

/-- A character as a message shows it. -/
def shownChar (c : Char) : List Char :=
  match c with
  | '\x00' => ['\\', '0']
  | '\t' => ['\\', 't']
  | '\r' => ['\\', 'r']
  | '\n' => ['\\', 'n']
  | '"' => ['\\', '"']
  | '\\' => ['\\', '\\']
  | c =>
    if isHidden c then '\\' :: 'u' :: '\x7b' :: Nat.toDigits 16 c.toNat ++ ['\x7d'] else [c]

/-- A string as a message shows it. -/
def shown (s : String) : String :=
  String.ofList ('"' :: s.toList.flatMap shownChar ++ ['"'])

end EntityModel.Text
