import EntityModel.Yaml.Cursor

/-!
# Blanks inside scalars

Blanks between two words of a scalar stand for themselves as long as they do not break the line.
Where they do, a single break becomes a space and of several breaks the first one is dropped; a
separator of Unicode as the first break is kept.
-/

namespace EntityModel.Yaml

/-- The blanks between two words of a scalar. -/
structure Gap where
  /-- Does a line break stand among them? -/
  broken : Bool := false
  /-- The blanks before the first break. -/
  blanks : List Char := []
  /-- The first break. -/
  first : Option Char := none
  /-- The other breaks. -/
  others : List Char := []

namespace Gap

/-- What the gap adds to the scalar. -/
def text (gap : Gap) : List Char :=
  if !gap.broken then gap.blanks
  else if gap.first == some '\n' then
    if gap.others.isEmpty then [' '] else gap.others
  else gap.first.toList ++ gap.others

/-- Adds a line break. -/
def addBreak (gap : Gap) (c : Char) : Gap :=
  if gap.broken then { gap with others := gap.others ++ [c] }
  else { gap with broken := true, blanks := [], first := some c }

/-- Adds a space or tab, which counts only before the first break. -/
def addBlank (gap : Gap) (c : Char) : Gap :=
  if gap.broken then gap else { gap with blanks := gap.blanks ++ [c] }

/-- Reads on in a gap. A tab before column `indent` of a continued line is refused. The fuel is at
least the number of characters left. -/
def read (indent : Nat) : (fuel : Nat) → Gap → Cursor → Except Error (Gap × Cursor)
  | 0, gap, cur => .ok (gap, cur)
  | fuel + 1, gap, cur =>
    match cur.rest with
    | [] => .ok (gap, cur)
    | c :: _ =>
      if isBlank c then
        if gap.broken && cur.column < indent && c == '\t' then .error .tabIndentation
        else read indent fuel (gap.addBlank c) (cur.skip 1)
      else
        match cur.lineBreak? with
        | some c => read indent fuel (gap.addBreak c) cur.skipLine
        | none => .ok (gap, cur)

end Gap

end EntityModel.Yaml
