import EntityModel.Proofs.Entity.Properties
import EntityModel.Proofs.Storage.Rounded

/-!
# Fallbacks of a definition

Which shapes of a definition a model cannot express, read off the document itself
(`Json.fallback?`, `Json.definitionFindings`), and the proof that compiling reports exactly these
(`compile_findings`): a reference and an enumeration hide whatever else is wrong with a property,
and every other property is reported at most once, with its value as it stands.

A small blob is also what a byte or binary string of the right length becomes. No diagnostic about
its type tells it from a fallback (`fallback?_of_smallBlob`).
-/

namespace EntityModel

/-- What a diagnostic reports, without the words. -/
structure Finding where
  code : String
  entity : Option String
  property : Option String
  descriptor : Json

def Diagnostic.finding (d : Diagnostic) : Finding :=
  ⟨d.kind.code, d.entity, d.property, d.descriptor⟩

namespace Json

/-- The type that a property names: a bare string is one. -/
def typeText? : Json → Option String
  | .string name => some name
  | value => value.textAt? "type"

/-- The literals of an enumeration. -/
def literals? (value : Json) : Option (List Json) := (value.get? "enum").bind items?

/-- The code of the fallback that a property takes. -/
def fallback? (value : Json) : Option String :=
  if value.reference?.isSome || value.literals?.isSome then none
  else if value.typeText? = some "array" then some "W001"
  else if value.typeText? = some "string" then
    if (value.get? "maxLength").any (·.number?.isNone) then some "W005" else none
  else if value.typeText? ∈ ["boolean", "integer", "number"].map some then none
  else some "W002"

def propertyFinding? (value : Json) (entity property : String) : Option Finding :=
  value.fallback?.map fun code => ⟨code, some entity, some property, value⟩

def definitionFindings (definition : Json) (entity : String) : List Finding :=
  match Entity.fieldsAt? definition "properties" with
  | some properties =>
    properties.filterMap fun (property, value) => value.propertyFinding? entity property
  | none => [⟨"W004", some entity, none, definition⟩]

/-- A byte or binary string that is too long for a short column and not for a small blob. -/
structure IsSmallBinary (value : Json) : Prop where
  type : value.typeText? = some "string"
  format : value.textAt? "format" = some "byte" ∨ value.textAt? "format" = some "binary"
  maxLength : ∃ x : Number, value.get? "maxLength" = some (.number x) ∧
    255 < x.value ∧ x.value ≤ 21845

end Json

namespace Descriptor

variable (value : Json)

theorem type_ofJson : (ofJson value).type = value.typeText? := by
  cases value <;> rfl

theorem format_ofJson : (ofJson value).format = value.textAt? "format" := by
  cases value <;> rfl

theorem enum_ofJson : (ofJson value).enum = value.literals? := by
  cases value <;> rfl

theorem maxLength_ofJson :
    (ofJson value).maxLength =
      ((value.get? "maxLength").bind Json.number?).map Number.rounded := by
  cases value <;> rfl

theorem fallback?_ofJson (h : value.reference? = none) (hliterals : value.literals? = none) :
    (ofJson value).fallback?.map (fun (kind, _) => kind.code) = value.fallback? := by
  unfold fallback? Json.fallback?
  rw [type_ofJson, raw_ofJson, h, hliterals]
  split
  · next hstring =>
    rw [hstring]
    cases value.get? "maxLength" with
    | none => rfl
    | some maxLength => cases maxLength <;> rfl
  · next hboolean => rw [hboolean]; rfl
  · next hinteger => rw [hinteger]; rfl
  · next hnumber => rw [hnumber]; rfl
  · next harray => rw [harray]; rfl
  · next name hstring hboolean hinteger hnumber harray htype =>
    -- the names of all types that are understood are ruled out
    have hothers : name ≠ "string" ∧ name ≠ "boolean" ∧ name ≠ "integer" ∧ name ≠ "number" ∧
        name ≠ "array" := ⟨hstring, hboolean, hinteger, hnumber, harray⟩
    simp [htype, hothers, DiagnosticKind.code]
  · next htype => rw [htype]; rfl

end Descriptor

namespace Json

theorem map_finding_diagnostic? (value : Json) (entity property : String) :
    (value.diagnostic? entity property).map Diagnostic.finding =
      value.propertyFinding? entity property := by
  unfold diagnostic? propertyFinding?
  cases hreference : value.reference? with
  | some reference => simp [fallback?, hreference]
  | none =>
    cases hliterals : value.literals? with
    | some literals =>
      have henum := (Descriptor.enum_ofJson value).trans hliterals
      simp [fallback?, hreference, henum, hliterals]
    | none =>
      have henum := (Descriptor.enum_ofJson value).trans hliterals
      rw [← Descriptor.fallback?_ofJson value hreference hliterals]
      cases hfallback : (Descriptor.ofJson value).fallback? with
      | none => simp [henum, hfallback]
      | some found => simp [henum, hfallback, Diagnostic.finding]

/-- The column of an enumeration has the literals that the property declares. -/
theorem literals?_of_column? {value : Json} {property : String} {c : Column} {values : List Json}
    (hcolumn : value.column? property = some c) (htype : c.type = .enum values) :
    value.literals? = some values := by
  cases hreference : value.reference? with
  | some reference =>
    rw [column?_of_reference (Option.isSome_iff_exists.2 ⟨_, hreference⟩)] at hcolumn
    cases hcolumn
  | none =>
    rw [column?_of_not_reference hreference] at hcolumn
    cases hcolumn
    simp only [Entity.columnOf, Descriptor.columnType, Descriptor.enum_ofJson] at htype
    cases hliterals : value.literals? with
    | some literals =>
      rw [hliterals] at htype
      cases htype
      rfl
    | none =>
      rw [hliterals] at htype
      exact absurd htype (Descriptor.scalarType_ne_enum _ values)

end Json

namespace Entity

variable (name : String) (definition : Json)

theorem compile_findings :
    (compile name definition).2.map Diagnostic.finding = definition.definitionFindings name := by
  rw [compile_diagnostics, Json.definitionFindings]
  cases fieldsAt? definition "properties" with
  | none => rfl
  | some properties =>
    dsimp only
    rw [List.map_filterMap]
    refine List.filterMap_congr fun field _ => ?_
    exact Json.map_finding_diagnostic? field.2 name field.1

end Entity

/-! ## Small blobs -/

namespace Descriptor

theorem stringType_eq_smallBlob_iff {d : Descriptor} :
    d.stringType = .blob .small ↔
      (d.format = some "byte" ∨ d.format = some "binary") ∧
        SizeClass.ofMaxLength d.maxLength = some .small := by
  unfold stringType
  by_cases hbinary : d.format = some "byte" ∨ d.format = some "binary"
  · have hcondition : (d.format = some "byte" || d.format = some "binary") = true := by
      simpa using hbinary
    rw [if_pos hcondition]
    cases SizeClass.ofMaxLength d.maxLength <;> simp [hbinary]
  · have hcondition : ¬ (d.format = some "byte" || d.format = some "binary") = true := by
      simpa using hbinary
    rw [if_neg hcondition]
    simp only [hbinary, false_and, iff_false]
    split
    · nofun
    split
    · nofun
    cases SizeClass.ofMaxLength d.maxLength <;> nofun

end Descriptor

namespace Json

theorem maxLength_of_small {value : Json} :
    SizeClass.ofMaxLength ((value.get? "maxLength").bind number?) = some .small ↔
      ∃ x : Number, value.get? "maxLength" = some (.number x) ∧
        255 < x.value ∧ x.value ≤ 21845 := by
  rw [SizeClass.ofMaxLength_eq_small_iff]
  cases value.get? "maxLength" with
  | none => simp
  | some maxLength => cases maxLength <;> simp [number?]

theorem of_column?_smallBlob {value : Json} {property : String} {column : Column}
    (hcolumn : value.column? property = some column) (htype : column.type = .blob .small) :
    value.reference? = none ∧ value.literals? = none ∧
      (Descriptor.ofJson value).scalarType = .blob .small := by
  cases hreference : value.reference? with
  | some reference =>
    rw [column?_of_reference (Option.isSome_iff_exists.2 ⟨_, hreference⟩)] at hcolumn
    cases hcolumn
  | none =>
    rw [column?_of_not_reference hreference] at hcolumn
    cases hcolumn
    have htype' : (Descriptor.ofJson value).columnType = .blob .small := htype
    unfold Descriptor.columnType at htype'
    rw [Descriptor.enum_ofJson] at htype'
    cases hliterals : value.literals? with
    | some literals =>
      rw [hliterals] at htype'
      cases htype'
    | none =>
      rw [hliterals] at htype'
      exact ⟨rfl, rfl, htype'⟩

theorem fallback?_of_smallBlob {value : Json} {property : String} {column : Column}
    (hcolumn : value.column? property = some column) (htype : column.type = .blob .small) :
    (value.fallback? ≠ some "W001" ∧ value.fallback? ≠ some "W002") ↔ value.IsSmallBinary := by
  obtain ⟨hreference, hliterals, hscalar⟩ := of_column?_smallBlob hcolumn htype
  unfold Descriptor.scalarType at hscalar
  rw [Descriptor.type_ofJson] at hscalar
  unfold fallback?
  rw [hreference, hliterals]
  split at hscalar
  · next hstring =>
    obtain ⟨hformat, hsize⟩ := Descriptor.stringType_eq_smallBlob_iff.1 hscalar
    rw [Descriptor.format_ofJson] at hformat
    rw [Descriptor.maxLength_ofJson, SizeClass.ofMaxLength_map_rounded] at hsize
    have hbinary : value.IsSmallBinary := ⟨hstring, hformat, maxLength_of_small.1 hsize⟩
    rw [hstring]
    -- a maximal length that is no number has a code of its own
    cases (value.get? "maxLength").any (·.number?.isNone) <;> simp [hbinary]
  · cases hscalar
  · cases hscalar
  · unfold Descriptor.numberType at hscalar
    split at hscalar <;> cases hscalar
  · next hstring hboolean hinteger hnumber =>
    -- the small blob of a type that is an array or not understood is a fallback
    have hnot : ¬ value.IsSmallBinary := fun h => hstring h.type
    have hothers : value.typeText? ≠ some "string" ∧ value.typeText? ≠ some "boolean" ∧
        value.typeText? ≠ some "integer" ∧ value.typeText? ≠ some "number" :=
      ⟨hstring, hboolean, hinteger, hnumber⟩
    by_cases harray : value.typeText? = some "array" <;> simp [harray, hothers, hnot]

end Json

end EntityModel
