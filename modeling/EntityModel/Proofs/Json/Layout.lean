import EntityModel.Json.Writer
import EntityModel.Text.WhiteSpace

/-!
# Layouts of a text

The compact and the indented text of a value differ in their blanks alone. With these as a
parameter there is one writer, `spell`, and what is read back from it is read back from both texts
(`toList_render`, `toList_prettyAt`).
-/

namespace EntityModel.Json

/-- The blanks of a text: in front of an item or a closing bracket that stands at a level, and
behind a colon. -/
structure Layout where
  gap : Nat → List Char
  afterColon : List Char
  isJsonBlank_of_mem_gap : ∀ level, ∀ c ∈ gap level, Text.isJsonBlank c = true
  isJsonBlank_of_mem_afterColon : ∀ c ∈ afterColon, Text.isJsonBlank c = true

namespace Layout

def compact : Layout where
  gap _ := []
  afterColon := []
  isJsonBlank_of_mem_gap := by simp
  isJsonBlank_of_mem_afterColon := by simp

def indented : Layout where
  gap level := '\n' :: List.replicate (2 * level) ' '
  afterColon := [' ']
  isJsonBlank_of_mem_gap := by
    intro level c hc
    rcases List.mem_cons.1 hc with rfl | hc
    · decide
    · rw [List.eq_of_mem_replicate hc]
      decide
  isJsonBlank_of_mem_afterColon := by simp [Text.isJsonBlank]

theorem afterColon_indented : indented.afterColon = [' '] := rfl

end Layout

/-- The text of a string behind its opening quote. -/
def spellString (s : String) : List Char := s.toList.flatMap escapeChar ++ ['"']

mutual

/-- The text of a value that stands at a level. -/
def spell (l : Layout) : Nat → Json → List Char
  | _, .null => "null".toList
  | _, .bool true => "true".toList
  | _, .bool false => "false".toList
  | _, .number n => n.text.toList
  | _, .string s => '"' :: spellString s
  | level, .array items => '[' :: spellItems l level true items ++ [']']
  | level, .object fields => '\x7b' :: spellFields l level true fields ++ ['\x7d']

/-- The items of an array that stands at a level, the blanks in front of its end included. -/
def spellItems (l : Layout) (level : Nat) : (first : Bool) → List Json → List Char
  | first, [] => if first then [] else l.gap level
  | first, item :: rest =>
    (if first then [] else [',']) ++ l.gap (level + 1) ++ spell l (level + 1) item ++
      spellItems l level false rest

/-- The fields of an object that stands at a level, the blanks in front of its end included. -/
def spellFields (l : Layout) (level : Nat) : (first : Bool) → List (String × Json) → List Char
  | first, [] => if first then [] else l.gap level
  | first, (key, value) :: rest =>
    (if first then [] else [',']) ++ l.gap (level + 1) ++ '"' :: spellString key ++ ':' ::
      l.afterColon ++ spell l (level + 1) value ++ spellFields l level false rest

end

theorem toList_quote (s : String) : (quote s).toList = '"' :: spellString s := by
  simp [quote, spellString]

mutual

theorem toList_render (level : Nat) : ∀ j : Json, (render j).toList = spell .compact level j
  | .null => rfl
  | .bool true => rfl
  | .bool false => rfl
  | .number _ => rfl
  | .string s => toList_quote s
  | .array items => by simp [render, spell, toList_renderItems level items]
  | .object fields => by simp [render, spell, toList_renderFields level fields]

theorem toList_renderItems (level : Nat) :
    ∀ items, (renderItems items).toList = spellItems .compact level true items
  | [] => rfl
  | [item] => by simp [renderItems, spellItems, Layout.compact, toList_render (level + 1) item]
  | item :: next :: rest => by
    have hrest := toList_renderItems level (next :: rest)
    simp [renderItems, spellItems, Layout.compact, toList_render (level + 1) item, hrest]

theorem toList_renderFields (level : Nat) :
    ∀ fields, (renderFields fields).toList = spellFields .compact level true fields
  | [] => rfl
  | [(key, value)] => by
    simp [renderFields, spellFields, Layout.compact, toList_render (level + 1) value,
      toList_quote]
  | (key, value) :: next :: rest => by
    have hrest := toList_renderFields level (next :: rest)
    simp [renderFields, spellFields, Layout.compact, toList_render (level + 1) value,
      toList_quote, hrest]

end

/-- The gap of the indented text, as a string. -/
theorem toList_newline (level : Nat) : (newline level).toList = Layout.indented.gap level := by
  simp [newline, Layout.indented]

mutual

theorem toList_prettyAt : ∀ (level : Nat) (j : Json),
    (prettyAt level j).toList = spell .indented level j
  | _, .null => rfl
  | _, .bool true => rfl
  | _, .bool false => rfl
  | _, .number _ => rfl
  | _, .string s => toList_quote s
  | _, .array [] => by simp [prettyAt, spell, spellItems]
  | level, .array (item :: rest) => by
    have hitems := toList_prettyItems level (item :: rest)
    simp [prettyAt, spell, ← hitems, toList_newline]
  | _, .object [] => by simp [prettyAt, spell, spellFields]
  | level, .object (field :: rest) => by
    have hfields := toList_prettyFields level (field :: rest)
    simp [prettyAt, spell, ← hfields, toList_newline]

/-- The items of an array, with the blanks in front of its end. -/
theorem toList_prettyItems (level : Nat) :
    ∀ items, (prettyItems (level + 1) items).toList ++
        (if items.isEmpty then [] else Layout.indented.gap level) =
      spellItems .indented level true items
  | [] => rfl
  | [item] => by
    simp [prettyItems, spellItems, toList_prettyAt (level + 1) item, toList_newline]
  | item :: next :: rest => by
    have hrest := toList_prettyItems level (next :: rest)
    simpa [prettyItems, spellItems, toList_prettyAt (level + 1) item, toList_newline] using hrest

theorem toList_prettyFields (level : Nat) :
    ∀ fields, (prettyFields (level + 1) fields).toList ++
        (if fields.isEmpty then [] else Layout.indented.gap level) =
      spellFields .indented level true fields
  | [] => rfl
  | [(key, value)] => by
    simp [prettyFields, spellFields, toList_prettyAt (level + 1) value, toList_newline,
      toList_quote, Layout.afterColon_indented]
  | (key, value) :: next :: rest => by
    have hrest := toList_prettyFields level (next :: rest)
    simpa [prettyFields, spellFields, toList_prettyAt (level + 1) value, toList_newline,
      toList_quote, Layout.afterColon_indented] using hrest

end

/-! ## Lines -/

theorem toList_render_line (j : Json) :
    (j.render ++ "\n").toList = spell .compact 0 j ++ ['\n'] := by
  rw [String.toList_append, toList_render 0]
  rfl

theorem toList_pretty_line (j : Json) :
    (j.pretty ++ "\n").toList = spell .indented 0 j ++ ['\n'] := by
  rw [String.toList_append, pretty, toList_prettyAt 0]
  rfl

end EntityModel.Json
