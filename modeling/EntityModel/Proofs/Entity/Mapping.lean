import EntityModel.Proofs.Entity.Fallbacks

/-!
# What a property is mapped to

The mapping of properties said of the document alone (`Json.mapped`): a reference, else an
enumeration, else what the type says, where a field of another form counts as absent. Mapping the
descriptor of a property comes to just that (`map_ofJson`).

A maximal length and a minimum count by their exact values, although a descriptor has them rounded
to binary64: a descriptor is mapped as the one with rounded numbers is (`Descriptor.map_rounded`).
-/

namespace EntityModel

/-! ## Rounded descriptors -/

namespace Descriptor

/-- The descriptor with its numbers rounded. -/
def rounded (d : Descriptor) : Descriptor :=
  { d with maxLength := d.maxLength.map Number.rounded, minimum := d.minimum.map Number.rounded }

theorem scalarType_rounded (d : Descriptor) : d.rounded.scalarType = d.scalarType := by
  have hstring : d.rounded.stringType = d.stringType := by
    have hsize : SizeClass.ofMaxLength d.rounded.maxLength = SizeClass.ofMaxLength d.maxLength :=
      SizeClass.ofMaxLength_map_rounded d.maxLength
    unfold stringType
    rw [hsize]
    rfl
  have hinteger : d.rounded.integerType = d.integerType := by
    simp only [integerType, isNonNegative, rounded, Option.any_map]
    congr 2
    exact funext Number.isNonNegative_rounded
  have hnumber : d.rounded.numberType = d.numberType := rfl
  have htype : d.rounded.type = d.type := rfl
  unfold scalarType
  rw [hstring, hinteger, hnumber, htype]

/-- Rounding the numbers of a descriptor changes nothing. -/
theorem map_rounded (d : Descriptor) (entity property : String) :
    d.rounded.map entity property = d.map entity property := by
  have hscalar := d.scalarType_rounded
  have hbinding : d.rounded.binding? entity property = d.binding? entity property := rfl
  have henum : d.rounded.enum = d.enum := rfl
  have hfallback : d.rounded.fallback? = d.fallback? := rfl
  have hraw : d.rounded.raw = d.raw := rfl
  unfold map
  rw [hscalar, hbinding, henum, hfallback, hraw]

end Descriptor

/-! ## The mapping of a property -/

/-- The size class of a maximal length: each threshold has to be exceeded. -/
def SizeClass.ofValue (maxLength : ℚ) : Option SizeClass :=
  if 5592415 < maxLength then some .long
  else if 21845 < maxLength then some .medium
  else if 255 < maxLength then some .small
  else none

namespace Json

variable (value : Json)

/-- The number under a key. -/
def numberAt? (key : String) : Option Number := (value.get? key).bind number?

/-- The type of a property that names `string` as its type. -/
def stringType : StorageType :=
  let size := (value.numberAt? "maxLength").bind fun n => SizeClass.ofValue n.value
  match value.textAt? "format" with
  | some "byte" => size.elim .binaryString .blob
  | some "binary" => size.elim .binaryString .blob
  | some "date" => .date
  | some "date-time" => .dateTime
  | _ => size.elim .string .text

/-- The type of a property that names `integer` as its type. -/
def integerType : StorageType :=
  .integer (if value.textAt? "format" = some "int32" then .bits32 else .bits64)
    ((value.numberAt? "minimum").any fun n => 0 ≤ n.value)

/-- The type of the column of a property: an enumeration, or what its type says. -/
def columnType : StorageType :=
  match value.literals?, value.typeText? with
  | some literals, _ => .enum literals
  | none, some "string" => value.stringType
  | none, some "boolean" => .boolean
  | none, some "integer" => value.integerType
  | none, some "number" => if value.textAt? "format" = some "float" then .float else .double
  | none, _ => .blob .small

/-- What becomes of a property. -/
def mapped (entity property : String) : Mapped :=
  match value.reference? with
  | some (reference, shape) => .reference ⟨entity, strippedName reference, property, shape⟩
  | none => .column value.columnType

end Json

namespace Descriptor

variable (value : Json)

/-- The descriptor of a value with its numbers as the document has them. -/
def unrounded : Descriptor :=
  { ofJson value with
    maxLength := value.numberAt? "maxLength"
    minimum := value.numberAt? "minimum" }

theorem rounded_unrounded : (unrounded value).rounded = ofJson value := by
  cases value <;> rfl

theorem minimum_ofJson :
    (ofJson value).minimum = (value.numberAt? "minimum").map Number.rounded := by
  cases value <;> rfl

theorem ofMaxLength_ofJson :
    SizeClass.ofMaxLength (ofJson value).maxLength =
      (value.numberAt? "maxLength").bind fun n => SizeClass.ofValue n.value := by
  have hmaxLength : (ofJson value).maxLength = (value.numberAt? "maxLength").map Number.rounded :=
    maxLength_ofJson value
  rw [hmaxLength, SizeClass.ofMaxLength_map_rounded]
  cases value.numberAt? "maxLength" with
  | none => rfl
  | some n => exact SizeClass.ofMaxLength_some n

theorem stringType_ofJson : (ofJson value).stringType = value.stringType := by
  unfold stringType Json.stringType
  rw [ofMaxLength_ofJson, format_ofJson]
  generalize (value.numberAt? "maxLength").bind (fun n => SizeClass.ofValue n.value) = size
  dsimp only
  by_cases hbyte : value.textAt? "format" = some "byte"
  · rw [hbyte]
    cases size <;> rfl
  by_cases hbinary : value.textAt? "format" = some "binary"
  · rw [hbinary]
    cases size <;> rfl
  by_cases hdate : value.textAt? "format" = some "date"
  · rw [hdate]
    rfl
  by_cases hdateTime : value.textAt? "format" = some "date-time"
  · rw [hdateTime]
    rfl
  -- every other format is none of the four
  · cases size <;> simp [hbyte, hbinary, hdate, hdateTime]

theorem integerType_ofJson : (ofJson value).integerType = value.integerType := by
  have hsign (n : Number) : n.rounded.isNonNegative = decide (0 ≤ n.value) := by
    rw [n.isNonNegative_rounded, Bool.eq_iff_iff, Number.isNonNegative_iff, decide_eq_true_iff]
  unfold integerType Json.integerType isNonNegative
  rw [format_ofJson, minimum_ofJson, Option.any_map]
  congr 2
  exact funext hsign

theorem columnType_ofJson : (ofJson value).columnType = value.columnType := by
  unfold columnType scalarType Json.columnType numberType
  rw [enum_ofJson, type_ofJson, format_ofJson, stringType_ofJson, integerType_ofJson]
  cases value.literals? with
  | some literals => rfl
  | none =>
    dsimp only
    split
    · next htype => simp only [htype]
    · next htype => simp only [htype]
    · next htype => simp only [htype]
    · next htype => simp only [htype]
    · simp only [StorageType.fallback]

/-- **What a property is mapped to**: the mapping of its descriptor is the one that is read off the
document, whatever the names and the value are, and so is that of a descriptor whose numbers are not
rounded. -/
theorem map_ofJson (entity property : String) :
    ((ofJson value).map entity property).1 = value.mapped entity property ∧
      ((unrounded value).map entity property).1 = value.mapped entity property := by
  rw [← map_rounded (unrounded value), rounded_unrounded, and_self]
  cases hreference : value.reference? with
  | some found =>
    have hbinding : (ofJson value).binding? entity property =
        some ⟨entity, strippedName found.1, property, found.2⟩ := by
      rw [binding?_ofJson, Json.binding?, hreference]
      rfl
    unfold map Json.mapped
    rw [hbinding, hreference]
  | none =>
    rw [map_ofJson_of_not_reference hreference]
    unfold Json.mapped
    rw [hreference, columnType_ofJson]

end Descriptor

end EntityModel
