import EntityModel.Proofs.Storage.Literals

/-!
# Types of a table text

The type of a column is one of a few fixed texts or an enumeration with its members between
brackets. Some of the fixed texts are starts of other ones, as `DATE` is of `DATETIME`, but never
together with what may follow a type in a table text (`StorageType.delimited_sql`).
-/

namespace EntityModel.StorageType

/-! ## Enumerations -/

/-- The text of an enumeration with the given members. -/
def enumText (members : List String) : String := "ENUM(" ++ ", ".intercalate members ++ ")"

/-- The members of an enumeration: its literals, or the empty string if there are none. -/
def members (values : List Json) : List Json := if values.isEmpty then [.string ""] else values

theorem members_ne_nil (values : List Json) : members values ≠ [] := by
  cases values with
  | nil => exact List.cons_ne_nil _ _
  | cons value rest => exact List.cons_ne_nil _ _

theorem sql_enum (values : List Json) :
    (enum values).sql = enumText ((members values).map Json.literal) := by
  cases values with
  | nil => decide
  | cons value rest => rfl

theorem toList_enumText (members : List String) (rest : List Char) :
    (enumText members).toList ++ rest =
      "ENUM(".toList ++
        (", ".toList.intercalate (members.map String.toList) ++ (")".toList ++ rest)) := by
  simp [enumText, String.toList_intercalate]

/-- An enumeration shows the literals of its members. -/
theorem enumText_append_inj {vs ws : List Json} (hvs : vs ≠ []) (hws : ws ≠ []) {r s : List Char}
    (heq : (enumText (vs.map Json.literal)).toList ++ r =
      (enumText (ws.map Json.literal)).toList ++ s) :
    vs.map Json.literal = ws.map Json.literal ∧ r = s := by
  rw [toList_enumText, toList_enumText, List.map_map, List.map_map] at heq
  exact Json.delimited_literal.joined ", ".toList ")".toList
    (fun r => Text.StartsWith.append (by decide) r) (fun r => Text.StartsWith.append (by decide) r)
    (fun r s => by simp) hvs hws (List.append_cancel_left heq)

/-! ## Fixed texts -/

/-- The types without members. -/
def fixedTypes : List StorageType :=
  [.integer .bits32 false, .integer .bits32 true, .integer .bits64 false, .integer .bits64 true,
    .float, .double, .boolean, .string, .binaryString, .text .small, .text .medium, .text .long,
    .blob .small, .blob .medium, .blob .long, .date, .dateTime]

/-- What may follow a type in a table text. -/
def followers : List String := [" DEFAULT ", ",", "\n"]

/-- A fixed text with what follows it does not start like another one with what follows that. -/
theorem sql_eq_of_start : ∀ a ∈ fixedTypes, ∀ f ∈ followers, ∀ b ∈ fixedTypes, ∀ g ∈ followers,
    a.sql.toList ++ f.toList <+: b.sql.toList ++ g.toList → a.sql = b.sql := by
  decide +kernel

theorem exists_cons_of_fixed : ∀ t ∈ fixedTypes, ∃ c cs, t.sql.toList = c :: cs ∧ c ≠ 'E' := by
  intro t ht
  have hhead : ∀ t ∈ fixedTypes, t.sql.toList.head?.any (· != 'E') = true := by decide +kernel
  cases heq : t.sql.toList with
  | nil => simpa [heq] using hhead t ht
  | cons c cs => exact ⟨c, cs, rfl, by simpa [heq] using hhead t ht⟩

theorem mem_fixedTypes_or_enum (t : StorageType) : t ∈ fixedTypes ∨ ∃ values, t = enum values := by
  cases t with
  | integer width unsigned => cases width <;> cases unsigned <;> simp [fixedTypes]
  | text size => cases size <;> simp [fixedTypes]
  | blob size => cases size <;> simp [fixedTypes]
  | enum values => exact .inr ⟨values, rfl⟩
  | float | double | boolean | string | binaryString | date | dateTime => simp [fixedTypes]

theorem sql_eq_of_fixed {t u : StorageType} (ht : t ∈ fixedTypes) (hu : u ∈ fixedTypes)
    {r s : List Char} (hr : Text.StartsWith followers r) (hs : Text.StartsWith followers s)
    (heq : t.sql.toList ++ r = u.sql.toList ++ s) : t.sql = u.sql := by
  obtain ⟨f, hf, rest, rfl⟩ := hr
  obtain ⟨g, hg, other, rfl⟩ := hs
  rw [← List.append_assoc, ← List.append_assoc] at heq
  -- both texts with their followers start the same whole, so one of them starts the other
  have hleft := List.prefix_append (t.sql.toList ++ f.toList) rest
  have hright := List.prefix_append (u.sql.toList ++ g.toList) other
  rw [heq] at hleft
  rcases List.prefix_or_prefix_of_prefix hleft hright with h | h
  · exact sql_eq_of_start t ht f hf u hu g hg h
  · exact (sql_eq_of_start u hu g hg t ht f hf h).symm

/-- A fixed text is no start of an enumeration. -/
theorem fixed_append_ne_enum {t : StorageType} (ht : t ∈ fixedTypes) (values : List Json)
    (r s : List Char) : t.sql.toList ++ r ≠ (enum values).sql.toList ++ s := by
  obtain ⟨c, cs, heq, hc⟩ := exists_cons_of_fixed t ht
  rw [heq, sql_enum, toList_enumText]
  intro h
  exact hc (List.cons.inj h).1

/-- A type ends where a default, a comma or the end of the line follows. -/
theorem delimited_sql :
    Text.Delimited (fun t : StorageType => t.sql.toList) sql (Text.StartsWith followers) := by
  intro t u r s hr hs heq
  dsimp only at heq
  have hsql : t.sql = u.sql := by
    rcases mem_fixedTypes_or_enum t with ht | ⟨vs, rfl⟩
    · rcases mem_fixedTypes_or_enum u with hu | ⟨ws, rfl⟩
      · exact sql_eq_of_fixed ht hu hr hs heq
      · exact absurd heq (fixed_append_ne_enum ht ws r s)
    · rcases mem_fixedTypes_or_enum u with hu | ⟨ws, rfl⟩
      · exact absurd heq.symm (fixed_append_ne_enum hu vs s r)
      · rw [sql_enum, sql_enum] at heq ⊢
        rw [(enumText_append_inj (members_ne_nil vs) (members_ne_nil ws) heq).1]
  rw [hsql] at heq
  exact ⟨hsql, List.append_cancel_left heq⟩

end EntityModel.StorageType
