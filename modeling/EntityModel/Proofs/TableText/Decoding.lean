import EntityModel.Proofs.Storage.Types
import EntityModel.TableText

/-!
# What a table text says

The text of a table shows the name of its entity, the name, type and default of every column, and
the primary key, and nothing in these can be taken for the text around it: names and strings are
between quotes that are written twice inside them. Where two tables with any texts behind them make
the same whole, they show the same and the same text follows (`Entity.tableText_append_eq_iff`).
-/

namespace EntityModel

theorem delimited_quotedName :
    Text.Delimited (fun name => (quotedName name).toList) id fun r => ∀ c ∈ r.head?, c ≠ '\x60' :=
  Text.delimited_enclosed '\x60'

namespace Column

/-- What stands behind the type of a column. -/
def defaultText (default : Option Json) : List Char :=
  default.elim [] fun value => " DEFAULT ".toList ++ value.literal.toList

/-- What the line of a column shows: the name, the type and the literal of the default. -/
def shown (c : Column) : String × String × Option String :=
  (c.name, c.type.sql, c.default.map Json.literal)

theorem toList_sql (c : Column) :
    c.sql.toList = "  ".toList ++ ((quotedName c.name).toList ++ " ".toList ++
      (c.type.sql.toList ++ defaultText c.default)) := by
  unfold sql defaultText
  cases c.default <;> simp

/-- The line of a column, from what it shows. -/
def lineOf (name type : String) (default : Option String) : String :=
  "  " ++ quotedName name ++ " " ++ type ++ default.elim "" (" DEFAULT " ++ ·)

theorem sql_eq_lineOf (c : Column) :
    c.sql = lineOf c.shown.1 c.shown.2.1 c.shown.2.2 := by
  unfold sql lineOf shown
  cases c.default <;> simp [String.append_assoc]

/-- A default is no start of the next line and no end of the table. -/
theorem ne_defaultText_append {r : List Char} (hr : Text.StartsWith [",", "\n"] r) (value : Json)
    (s : List Char) : r ≠ defaultText (some value) ++ s := by
  obtain ⟨front, hfront, rest, rfl⟩ := hr
  simp only [List.mem_cons, List.not_mem_nil, or_false] at hfront
  rcases hfront with rfl | rfl
  · exact fun heq => absurd (List.cons.inj heq).1 (by decide)
  · exact fun heq => absurd (List.cons.inj heq).1 (by decide)

theorem delimited_defaultText :
    Text.Delimited defaultText (Option.map Json.literal) (Text.StartsWith [",", "\n"]) := by
  have hbehind := (Json.delimited_literal.mono
    (fun r (hr : Text.StartsWith [",", "\n"] r) => hr.mono (by decide))).behind " DEFAULT ".toList
  intro x y r s hr hs heq
  cases x with
  | none =>
    cases y with
    | none => exact ⟨rfl, heq⟩
    | some value => exact absurd heq (ne_defaultText_append hr value s)
  | some value =>
    cases y with
    | none => exact absurd heq.symm (ne_defaultText_append hs value r)
    | some other => exact (hbehind hr hs heq).imp_left (congrArg some)

theorem startsWith_defaultText (default : Option Json) {r : List Char}
    (hr : Text.StartsWith [",", "\n"] r) :
    Text.StartsWith StorageType.followers (defaultText default ++ r) := by
  cases default with
  | none => exact hr.mono (by decide)
  | some value =>
    exact ⟨" DEFAULT ", by decide, value.literal.toList ++ r, (List.append_assoc _ _ _).symm⟩

/-- The line of a column ends where a comma or the end of the line follows. -/
theorem delimited_sql :
    Text.Delimited (fun c : Column => c.sql.toList) shown (Text.StartsWith [",", "\n"]) := by
  have hname := (delimited_quotedName.before " ".toList (fun r => by simp)).comp name
  have htype := StorageType.delimited_sql.comp type
  have hdefault := delimited_defaultText.comp Column.default
  have hline := (hname.append (htype.append hdefault fun c r hr => startsWith_defaultText _ hr)
    fun _ _ _ => trivial).behind "  ".toList
  exact hline.congr toList_sql

end Column

namespace Entity

/-! ## Lines -/

theorem toList_primaryKeyLine (name : String) :
    (primaryKeyLine name).toList =
      "  PRIMARY KEY (".toList ++ ((quotedName name).toList ++ ")".toList) := by
  change ("  PRIMARY KEY (" ++ quotedName name ++ ")").toList = _
  rw [String.toList_append, String.toList_append, List.append_assoc]

theorem delimited_primaryKeyLine :
    Text.Delimited (fun name => (primaryKeyLine name).toList) id fun _ => True := by
  have hname := (delimited_quotedName.before ")".toList (fun r => by simp)).behind
    "  PRIMARY KEY (".toList
  exact hname.congr toList_primaryKeyLine

/-- The text of a line: that of a column or that of the primary key with a name. -/
def lineText : Column ⊕ String → List Char :=
  Sum.elim (fun c => c.sql.toList) fun name => (primaryKeyLine name).toList

/-- What a line shows. -/
def shownLine : Column ⊕ String → (String × String × Option String) ⊕ String :=
  Sum.map Column.shown id

/-- Behind the two blanks of a line stands the quote of a column or the word of the primary key. -/
theorem sql_append_ne_primaryKeyLine (c : Column) (name : String) (r s : List Char) :
    c.sql.toList ++ r ≠ (primaryKeyLine name).toList ++ s := by
  intro heq
  rw [Column.toList_sql, toList_primaryKeyLine] at heq
  simp only [quotedName, Text.toList_enclosed] at heq
  have hthird := congrArg (·[2]?) heq
  simp at hthird

theorem delimited_lineText :
    Text.Delimited lineText shownLine (Text.StartsWith [",", "\n"]) :=
  Column.delimited_sql.sum (delimited_primaryKeyLine.mono fun _ _ => trivial)
    sql_append_ne_primaryKeyLine

theorem exists_lineText (line : Column ⊕ String) : ∃ cs, lineText line = ' ' :: cs := by
  cases line with
  | inl c => exact ⟨_, c.toList_sql⟩
  | inr name => exact ⟨_, toList_primaryKeyLine name⟩

/-- The lines of a table between its first and its last: the columns and then the primary key. -/
def lines (e : Entity) : List (Column ⊕ String) :=
  e.columns.toList.map .inl ++ e.primaryKey?.toList.map .inr

theorem map_toList_tableLines (e : Entity) :
    e.tableLines.map String.toList = e.lines.map lineText := by
  unfold tableLines lines
  cases e.primaryKey? <;> simp [lineText]

/-- What lines show tells the columns from the primary key. -/
theorem map_shownLine_lines_inj {e₁ e₂ : Entity}
    (h : e₁.lines.map shownLine = e₂.lines.map shownLine) :
    e₁.columns.toList.map Column.shown = e₂.columns.toList.map Column.shown ∧
      e₁.primaryKey? = e₂.primaryKey? := by
  have hcolumns (e : Entity) : (e.lines.map shownLine).filterMap Sum.getLeft? =
      e.columns.toList.map Column.shown := by
    unfold lines
    cases e.primaryKey? <;> simp [shownLine, List.filterMap_map, Function.comp_def]
  have hkey (e : Entity) : (e.lines.map shownLine).filterMap Sum.getRight? =
      e.primaryKey?.toList := by
    unfold lines
    cases e.primaryKey? <;> simp [shownLine, List.filterMap_map, Function.comp_def]
  refine ⟨by rw [← hcolumns, ← hcolumns, h], ?_⟩
  rw [← Option.head?_toList (o := e₁.primaryKey?), ← hkey, h, hkey, Option.head?_toList]

/-! ## Tables -/

/-- What stands behind the opening bracket of a table with the given lines. -/
def bodyText (lines : List (Column ⊕ String)) : List Char :=
  (if lines = [] then [] else ",\n".toList.intercalate (lines.map lineText) ++ "\n".toList) ++
    ");\n".toList

theorem exists_joined (line : Column ⊕ String) (rest : List (Column ⊕ String)) :
    ∃ cs, ",\n".toList.intercalate ((line :: rest).map lineText) = ' ' :: cs := by
  obtain ⟨cs, hline⟩ := exists_lineText line
  cases rest with
  | nil => exact ⟨cs, by simpa using hline⟩
  | cons next rest =>
    rw [List.map_cons, List.map_cons, List.intercalate_cons_cons, hline]
    exact ⟨_, rfl⟩

/-- A line starts with a blank, the end of a table with its closing bracket. -/
theorem bodyText_append_ne_close {lines : List (Column ⊕ String)} (h : lines ≠ [])
    (r s : List Char) : bodyText lines ++ r ≠ ");\n".toList ++ s := by
  cases lines with
  | nil => exact absurd rfl h
  | cons line rest =>
    obtain ⟨cs, hjoined⟩ := exists_joined line rest
    intro heq
    rw [bodyText, if_neg h, hjoined] at heq
    exact absurd (List.cons.inj heq).1 (by decide)

theorem delimited_bodyText :
    Text.Delimited bodyText (List.map shownLine) fun _ => True := by
  intro xs ys r s _ _ heq
  by_cases hxs : xs = []
  · by_cases hys : ys = []
    · subst hxs hys
      exact ⟨rfl, List.append_cancel_left heq⟩
    · subst hxs
      exact absurd heq.symm (bodyText_append_ne_close hys s r)
  · by_cases hys : ys = []
    · subst hys
      exact absurd heq (bodyText_append_ne_close hxs r s)
    · unfold bodyText at heq
      rw [if_neg hxs, if_neg hys] at heq
      simp only [List.append_assoc] at heq
      obtain ⟨hlines, heq⟩ := delimited_lineText.joined ",\n".toList "\n".toList
        (fun r => Text.StartsWith.append (by decide) r)
        (fun r => Text.StartsWith.append (by decide) r)
        (fun r s => by simp) hxs hys heq
      exact ⟨hlines, List.append_cancel_left heq⟩

theorem toList_tableText (e : Entity) :
    e.tableText.toList =
      "CREATE TABLE ".toList ++
        ((quotedName e.name).toList ++ " (\n".toList ++ bodyText e.lines) := by
  have hlines := e.map_toList_tableLines
  have hempty : e.tableLines.isEmpty = true ↔ e.lines = [] := by
    rw [List.isEmpty_iff, ← List.map_eq_nil_iff (f := String.toList), hlines, List.map_eq_nil_iff]
  unfold tableText bodyText
  by_cases h : e.lines = []
  · simp [hempty.2 h, h]
  · simp [mt hempty.1 h, h, String.toList_intercalate, hlines]

/-- A table ends by itself, whatever follows it. -/
theorem delimited_tableText :
    Text.Delimited (fun e : Entity => e.tableText.toList)
      (fun e => (e.name, e.lines.map shownLine)) fun _ => True := by
  have hname : Text.Delimited (fun e : Entity => (quotedName e.name).toList ++ " (\n".toList) name
      fun _ => True :=
    (delimited_quotedName.before " (\n".toList (fun r => by simp)).comp name
  have hbody : Text.Delimited (fun e : Entity => bodyText e.lines) (fun e => e.lines.map shownLine)
      fun _ => True := delimited_bodyText.comp lines
  have htable := (hname.append hbody fun _ _ _ => trivial).behind "CREATE TABLE ".toList
  exact htable.congr toList_tableText

/-- The lines of a table, from what it shows. -/
theorem tableLines_eq (e : Entity) :
    e.tableLines =
      (e.columns.toList.map Column.shown).map
          (fun shown => Column.lineOf shown.1 shown.2.1 shown.2.2) ++
        (e.primaryKey?.map primaryKeyLine).toList := by
  rw [tableLines, List.map_map]
  congr 1
  exact List.map_congr_left fun c _ => c.sql_eq_lineOf

/-- **Tables can be read back.** Two table texts with any texts behind them make the same whole
exactly if the tables have the same name, columns of the same names, types and defaults in the same
order and the same primary key, and the texts behind them are the same. -/
theorem tableText_append_eq_iff (e₁ e₂ : Entity) (rest₁ rest₂ : String) :
    e₁.tableText ++ rest₁ = e₂.tableText ++ rest₂ ↔
      e₁.name = e₂.name ∧
        e₁.columns.toList.map Column.shown = e₂.columns.toList.map Column.shown ∧
        e₁.primaryKey? = e₂.primaryKey? ∧ rest₁ = rest₂ := by
  constructor
  · intro heq
    have hwhole := congrArg String.toList heq
    rw [String.toList_append, String.toList_append] at hwhole
    obtain ⟨hshown, hrest⟩ := delimited_tableText trivial trivial hwhole
    obtain ⟨hname, hlines⟩ := Prod.mk.inj hshown
    obtain ⟨hcolumns, hkey⟩ := map_shownLine_lines_inj hlines
    exact ⟨hname, hcolumns, hkey, String.toList_inj.1 hrest⟩
  · rintro ⟨hname, hcolumns, hkey, rfl⟩
    unfold tableText
    rw [tableLines_eq, tableLines_eq, hname, hcolumns, hkey]

end Entity

end EntityModel
