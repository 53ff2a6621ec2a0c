import EntityModel.Binding
import EntityModel.Diagnostic
import EntityModel.Storage

/-!
# From descriptors to storage types

A property is a reference, an enumeration, or what its type says, in this order. Every property has
a storage type or a binding: what is not understood becomes a small blob, with a diagnostic.
-/

namespace EntityModel

/-- What becomes of a property. -/
inductive Mapped where
  | column (type : StorageType)
  | reference (binding : Binding)
  deriving Repr

namespace Descriptor

def stringType (d : Descriptor) : StorageType :=
  let size := SizeClass.ofMaxLength d.maxLength
  if d.format = some "byte" || d.format = some "binary" then
    match size with
    | some size => .blob size
    | none => .binaryString
  else if d.format = some "date" then .date
  else if d.format = some "date-time" then .dateTime
  else
    match size with
    | some size => .text size
    | none => .string

def integerType (d : Descriptor) : StorageType :=
  .integer (if d.format = some "int32" then .bits32 else .bits64) d.isNonNegative

def numberType (d : Descriptor) : StorageType :=
  if d.format = some "float" then .float else .double

/-- The storage type of a property that is neither a reference nor an enumeration. -/
def scalarType (d : Descriptor) : StorageType :=
  match d.type with
  | some "string" => d.stringType
  | some "boolean" => .boolean
  | some "integer" => d.integerType
  | some "number" => d.numberType
  | _ => .fallback

/-- The kind and the message of the fallback that a property takes, if it takes one. -/
def fallback? (d : Descriptor) : Option (DiagnosticKind × String) :=
  match d.type with
  | some "string" =>
    match d.raw.get? "maxLength" with
    | some (.number _) => none
    | some value =>
      some (.invalidMaxLength,
        "maxLength is " ++ value.typeName ++ ", not a number; treating it as absent")
    | none => none
  | some "boolean" => none
  | some "integer" => none
  | some "number" => none
  | some "array" =>
    some (.unsupportedArrayItems, "only arrays of references are supported, falling back to blob")
  | some name => some (.unknownType, "unknown data type \"" ++ name ++ "\", falling back to blob")
  | none => some (.unknownType, "missing data type, falling back to blob")

/-- What becomes of a property, and the diagnostics on the way. -/
def map (entity property : String) (d : Descriptor) : Mapped × List Diagnostic :=
  match d.binding? entity property with
  | some binding => (.reference binding, [])
  | none =>
    match d.enum with
    | some values => (.column (.enum values), [])
    | none =>
      (.column d.scalarType,
        d.fallback?.toList.map fun (kind, message) =>
          { kind, entity := some entity, property := some property, message,
            descriptor := d.raw })

end Descriptor

end EntityModel
