import Mathlib.Data.Set.List
import EntityModel.Proofs.Entity.Fallbacks
import EntityModel.Proofs.Storage.Types

/-!
# Enumerations of an entity

The column of an enumeration lists the literals that its property declares, one member each and in
their order, and the empty string where none is declared (`Entity.sql_of_enum`). MySQL takes only
strings for members. The literals are written as any literals are, so what the column has are the
members of an enumeration exactly if each declared literal is a string, an array or an object,
whatever type the property names beside them.
-/

namespace EntityModel

namespace StorageType

/-- An enumeration whose members are strings between quotes. -/
def IsQuotedEnum (text : String) : Prop :=
  ∃ texts : List String, texts ≠ [] ∧ text = enumText (texts.map (Text.enclosed '\''))

theorem enumText_inj {vs ws : List Json} (hvs : vs ≠ []) (hws : ws ≠ [])
    (h : enumText (vs.map Json.literal) = enumText (ws.map Json.literal)) :
    vs.map Json.literal = ws.map Json.literal :=
  (enumText_append_inj hvs hws (r := []) (s := []) (by rw [h])).1

theorem isQuotedEnum_enumText_iff {vs : List Json} (hvs : vs ≠ []) :
    IsQuotedEnum (enumText (vs.map Json.literal)) ↔ ∀ v ∈ vs, v.literalText?.isSome = true := by
  constructor
  · rintro ⟨texts, htexts, htext⟩ v hv
    -- the members between quotes are the literals of strings
    have hstrings : texts.map (Text.enclosed '\'') = (texts.map Json.string).map Json.literal := by
      rw [List.map_map]
      rfl
    rw [hstrings] at htext
    have hmembers := enumText_inj hvs (by simpa using htexts) htext
    rw [← hstrings] at hmembers
    have hliteral : v.literal ∈ texts.map (Text.enclosed '\'') := by
      rw [← hmembers]
      exact List.mem_map_of_mem hv
    obtain ⟨text, -, htext⟩ := List.mem_map.1 hliteral
    exact (Json.exists_enclosed_iff v).1 ⟨text, htext.symm⟩
  · intro h
    have hquoted : vs.map Json.literal ∈ Set.range (List.map (Text.enclosed '\'')) := by
      rw [Set.range_list_map]
      intro literal hliteral
      obtain ⟨v, hv, rfl⟩ := List.mem_map.1 hliteral
      obtain ⟨text, htext⟩ := (Json.exists_enclosed_iff v).2 (h v hv)
      exact ⟨text, htext.symm⟩
    obtain ⟨texts, htexts⟩ := hquoted
    refine ⟨texts, ?_, by rw [htexts]⟩
    rintro rfl
    exact hvs (List.map_eq_nil_iff.1 htexts.symm)

theorem isQuotedEnum_sql_iff (values : List Json) :
    IsQuotedEnum (enum values).sql ↔ ∀ value ∈ values, value.literalText?.isSome = true := by
  rw [sql_enum, isQuotedEnum_enumText_iff (members_ne_nil values)]
  cases values with
  | nil => simp [members, Json.literalText?]
  | cons value rest => rfl

end StorageType

namespace Entity

open StorageType

/-- **What the column of an enumeration shows**: the literals that a property of its name declares.
They are strings, as the members of an enumeration are, exactly if none of them is a number, a
boolean or null. -/
theorem sql_of_enum {name : String} {definition : Json} {c : Column} {values : List Json}
    (hc : c ∈ (compile name definition).1.columns.toList) (htype : c.type = .enum values) :
    (∃ value, (c.name, value) ∈ definition.properties ∧ value.literals? = some values) ∧
      members values ≠ [] ∧ c.type.sql = enumText ((members values).map Json.literal) ∧
      (IsQuotedEnum c.type.sql ↔ ∀ value ∈ values, value.literalText?.isSome = true) := by
  obtain ⟨property, value, hproperty, hcolumn⟩ := exists_of_mem_columns hc
  have hliterals := Json.literals?_of_column? hcolumn htype
  rw [← Json.name_of_column? hcolumn] at hproperty
  rw [htype]
  exact ⟨⟨value, hproperty, hliterals⟩, members_ne_nil values, sql_enum values,
    isQuotedEnum_sql_iff values⟩

def ratingDefinition (literals : List Json) : Json :=
  .object [("properties", .object
    [("stars", .object [("type", .string "integer"), ("enum", .array literals)])])]

/-- A string and a number as the literals of one enumeration. -/
theorem sql_of_enum_mixed :
    let literals := [Json.string "none", .number (.int 5)]
    let c : Column := { name := "stars", type := .enum literals }
    (c ∈ (compile "Rating" (ratingDefinition literals)).1.columns.toList ∧
        c.type = .enum literals) ∧
      c.type.sql = "ENUM('none', 5)" ∧ ¬ IsQuotedEnum c.type.sql := by
  intro literals c
  have hc : c ∈ (compile "Rating" (ratingDefinition literals)).1.columns.toList :=
    List.mem_singleton_self _
  obtain ⟨-, -, hsql, hquoted⟩ := sql_of_enum hc rfl
  refine ⟨⟨hc, rfl⟩, by rw [hsql]; decide, ?_⟩
  rw [hquoted]
  decide

/-- The numbers of an enumeration stand in it as numbers, though MySQL wants strings there. -/
theorem enumeration_of_numbers_unquoted :
    let literals := [Json.number (.int 1), .number (.int 2)]
    ∃ c ∈ (compile "Rating" (ratingDefinition literals)).1.columns.toList,
      c.type = .enum literals ∧ c.type.sql = "ENUM(1, 2)" ∧ ¬ IsQuotedEnum c.type.sql := by
  intro literals
  refine ⟨{ name := "stars", type := .enum literals }, List.mem_singleton_self _, rfl,
    by decide, ?_⟩
  rw [isQuotedEnum_sql_iff]
  decide

end Entity

end EntityModel
