import EntityModel.Proofs.Registry.Revisions

/-!
# Spellings of a property

A property can be spelled in many ways that say the same (`Json.Respelled`): the name of a type
alone stands for an object that says nothing else, and an object may have other fields besides
those that describe a property. The descriptor reads the same from each spelling, but for the value
that it keeps as it stands (`Descriptor.ofJson_respelled`), and only diagnostics show that value.
So a document with its properties respelled has the same model, with the same diagnostics of other
values (`initializeWith_respelled`).
-/

namespace EntityModel

namespace Json

/-- The keys of the fields that describe a property. -/
def descriptorKeys : List String :=
  ["type", "format", "maxLength", "minimum", "enum", "default", "description", "$ref", "items"]

/-- The same description of a property: the fields may differ under other keys. -/
def Fields.SameDescriptor (fields fields' : Fields) : Prop :=
  ∀ key ∈ descriptorKeys, fields'.get? key = fields.get? key

/-- Another spelling of a property: with other fields that describe nothing, or as an object in
place of the name of its type alone. -/
inductive Respelled : Json → Json → Prop
  | refl (value : Json) : Respelled value value
  | object {fields fields' : Fields} (h : fields.SameDescriptor fields') :
      Respelled (.object fields) (.object fields')
  | shorthand {name : String} {fields : Fields}
      (h : Fields.SameDescriptor [("type", .string name)] fields) :
      Respelled (.string name) (.object fields)

/-- A field under another key describes nothing, wherever it is added. -/
theorem Fields.sameDescriptor_add {key : String} (hkey : key ∉ descriptorKeys)
    (before after : Fields) (value : Json) :
    Fields.SameDescriptor (before ++ after) (before ++ (key, value) :: after) := by
  intro other hother
  have hne : key ≠ other := fun heq => hkey (heq ▸ hother)
  induction before with
  | nil =>
    rw [List.nil_append, List.nil_append, get?_cons]
    exact if_neg hne
  | cons first rest ih =>
    rw [List.cons_append, List.cons_append, get?_cons, get?_cons, ih]

end Json

namespace Descriptor

open Json (Respelled)

theorem ofJson_object {fields fields' : Json.Fields} (h : fields.SameDescriptor fields') :
    ofJson (.object fields') = { ofJson (.object fields) with raw := .object fields' } := by
  have htype := h "type" (by decide)
  have hformat := h "format" (by decide)
  have hmaxLength := h "maxLength" (by decide)
  have hminimum := h "minimum" (by decide)
  have henum := h "enum" (by decide)
  have hdefault := h "default" (by decide)
  have hdescription := h "description" (by decide)
  have hreference := h "$ref" (by decide)
  have hitems := h "items" (by decide)
  simp only [ofJson, text?, number?, default?, itemsOf_eq, htype, hformat, hmaxLength, hminimum,
    henum, hdefault, hdescription, hreference, hitems]

/-- The name of a type says as much as an object with the type alone. -/
theorem ofJson_shorthand (name : String) :
    ofJson (.object [("type", .string name)]) =
      { ofJson (.string name) with raw := .object [("type", .string name)] } := rfl

variable {value value' : Json} (h : Respelled value value')
include h

/-- The spellings of a property have one descriptor, but for the value as it stands. -/
theorem ofJson_respelled : ofJson value' = { ofJson value with raw := value' } := by
  cases h with
  | refl => cases value <;> rfl
  | object h => exact ofJson_object h
  | shorthand h => rw [ofJson_object h, ofJson_shorthand]

/-- Of the value as it stands, a fallback depends on nothing but the maximal length. -/
theorem fallback?_respelled : (ofJson value').fallback? = (ofJson value).fallback? := by
  have htype : (ofJson value').type = (ofJson value).type := by rw [ofJson_respelled h]
  have hmaxLength : value'.get? "maxLength" = value.get? "maxLength" := by
    cases h with
    | refl => rfl
    | object h => exact h "maxLength" (by decide)
    | shorthand h => exact h "maxLength" (by decide)
  unfold fallback?
  rw [htype, raw_ofJson, raw_ofJson, hmaxLength]

end Descriptor

/-- The diagnostic without the value that it reports. -/
def Diagnostic.withoutDescriptor (d : Diagnostic) : Diagnostic := { d with descriptor := .null }

namespace Json

theorem reference?_object {fields fields' : Fields} (h : fields.SameDescriptor fields') :
    (object fields').reference? = (object fields).reference? := by
  have hreference : (object fields').textAt? "$ref" = (object fields).textAt? "$ref" :=
    congrArg (·.bind string?) (h "$ref" (by decide))
  have htype : (object fields').textAt? "type" = (object fields).textAt? "type" :=
    congrArg (·.bind string?) (h "type" (by decide))
  have hitems : (object fields').get? "items" = (object fields).get? "items" :=
    h "items" (by decide)
  unfold reference?
  rw [hreference, htype, hitems]

theorem reference?_shorthand (name : String) :
    (object [("type", .string name)]).reference? = none := by
  have hitems : (object [("type", .string name)]).get? "items" = none := rfl
  have hreference : (object [("type", .string name)]).textAt? "$ref" = none := rfl
  unfold reference?
  -- also an array has no items to refer to something
  rw [hreference, hitems]
  exact ite_self none

section

variable {value value' : Json} (h : Respelled value value')
include h

theorem reference?_respelled : value'.reference? = value.reference? := by
  cases h with
  | refl => rfl
  | object h => exact reference?_object h
  | shorthand h => exact (reference?_object h).trans (reference?_shorthand _)

theorem column?_respelled (property : String) :
    value'.column? property = value.column? property := by
  unfold column?
  rw [reference?_respelled h, Descriptor.ofJson_respelled h]
  rfl

theorem propertyRelationships_respelled (names : List String) (source property : String) :
    value'.propertyRelationships names source property =
      value.propertyRelationships names source property := by
  unfold propertyRelationships
  rw [reference?_respelled h]

theorem diagnostic?_respelled (entity property : String) :
    (value'.diagnostic? entity property).map Diagnostic.withoutDescriptor =
      (value.diagnostic? entity property).map Diagnostic.withoutDescriptor := by
  have henum : (Descriptor.ofJson value').enum = (Descriptor.ofJson value).enum := by
    rw [Descriptor.ofJson_respelled h]
  unfold diagnostic?
  dsimp only
  rw [reference?_respelled h, Descriptor.fallback?_respelled h, henum]
  split
  · rfl
  · rw [Option.map_map, Option.map_map]
    rfl

end

end Json

namespace Registry

variable {σ τ : Type}

/-- **What the spelling of properties decides**: nothing but the values that diagnostics report.
Whichever properties are spelled in another way, there are the same entities, the same
relationships and the same diagnostics of other values. -/
theorem initializeWith_respelled {change : String → String → Json → Json}
    (h : ∀ source property value, Json.Respelled value (change source property value))
    (document : Json) (b : Backend σ) (c : Backend τ) (options otherOptions : InitOptions)
    (s : σ) (t : τ) :
    let made := (initializeWith b {} document options s).2.1
    let again := (initializeWith c {} (document.revise change) otherOptions t).2.1
    again.entities = made.entities ∧ again.relationships = made.relationships ∧
      again.diagnostics.map Diagnostic.withoutDescriptor =
        made.diagnostics.map Diagnostic.withoutDescriptor := by
  intro made again
  refine ⟨?_, ?_, ?_⟩
  · unfold made again
    rw [entities_initializeWith, entities_initializeWith]
    refine Json.entities_revise document ?_
    intro source property value
    exact Json.column?_respelled (h source property value) property
  · unfold made again
    rw [relationships_initializeWith, relationships_initializeWith]
    have hsame : (document.revise change).relationships = document.relationships.map id := by
      refine Json.relationships_revise document ?_
      intro names source property value
      rw [List.map_id]
      exact Json.propertyRelationships_respelled (h source property value) names source property
    rw [hsame, List.map_id]
  · unfold made again
    rw [diagnostics_initializeWith, diagnostics_initializeWith]
    refine Json.diagnostics_revise document ?_
    intro source property value
    exact Json.diagnostic?_respelled (h source property value) source property

/-- Types that are spelled as objects with a title, those of arrays and unknown ones included. -/
theorem initializeWith_respelled_titles :
    let spell : String → String → Json → Json := fun _ property value =>
      match value with
      | .string name => .object [("title", .string property), ("type", .string name)]
      | value => value
    let document : Json := .object [("definitions", .object
      [("Tag", .object [("properties", .object
        [("id", .string "integer"), ("parents", .string "array"), ("icon", .string "file")])])])]
    let made := (initializeWith Store.backend {} document {} {}).2.1
    let again := (initializeWith Store.backend {} (document.revise spell) {} {}).2.1
    (∀ source property value, Json.Respelled value (spell source property value)) ∧
      again.entities = made.entities ∧
      again.diagnostics.map Diagnostic.withoutDescriptor =
        made.diagnostics.map Diagnostic.withoutDescriptor ∧
      made.diagnostics.map Diagnostic.line =
        ["[W001] Tag.parents: only arrays of references are supported, falling back to blob",
          "[W002] Tag.icon: unknown data type \"file\", falling back to blob"] := by
  intro spell document made again
  have h : ∀ source property value, Json.Respelled value (spell source property value) := by
    intro source property value
    cases value with
    | string name =>
      exact .shorthand (Json.Fields.sameDescriptor_add (by decide) [] _ (.string property))
    | null => exact .refl _
    | bool _ => exact .refl _
    | number _ => exact .refl _
    | array _ => exact .refl _
    | object _ => exact .refl _
  obtain ⟨hentities, -, hdiagnostics⟩ :=
    initializeWith_respelled h document Store.backend Store.backend {} {} {} {}
  exact ⟨h, hentities, hdiagnostics, by decide⟩

end Registry

end EntityModel
