import EntityModel.Json.Value
import EntityModel.Association

/-!
# Diagnostics

A shape that a model cannot express is no error: the model falls back to something it can express
and records a diagnostic.
-/

namespace EntityModel

/-- The fallbacks that are recorded. -/
inductive DiagnosticKind where
  /-- An array of something else than references became a blob. -/
  | unsupportedArrayItems
  /-- A property without a known type became a blob. -/
  | unknownType
  /-- The document has no definitions. -/
  | missingDefinitions
  /-- A definition has no properties. -/
  | missingProperties
  /-- A maximal length that is no number counts as absent. -/
  | invalidMaxLength
  deriving DecidableEq, Repr

namespace DiagnosticKind

def code : DiagnosticKind → String
  | .unsupportedArrayItems => "W001"
  | .unknownType => "W002"
  | .missingDefinitions => "W003"
  | .missingProperties => "W004"
  | .invalidMaxLength => "W005"

def name : DiagnosticKind → String
  | .unsupportedArrayItems => "unsupported_array_items"
  | .unknownType => "unknown_type"
  | .missingDefinitions => "missing_definitions"
  | .missingProperties => "missing_properties"
  | .invalidMaxLength => "invalid_max_length"

end DiagnosticKind

/-- A recorded fallback. -/
structure Diagnostic where
  kind : DiagnosticKind
  entity : Option String := none
  property : Option String := none
  message : String
  /-- The part of the document that has the shape. -/
  descriptor : Json
  deriving Repr

namespace Diagnostic

/-- Where in the document the shape was found. -/
def location (d : Diagnostic) : String :=
  match d.entity, d.property with
  | some entity, some property => entity ++ "." ++ property
  | some entity, none => entity
  | none, some property => property
  | none, none => "/"

def line (d : Diagnostic) : String :=
  "[" ++ d.kind.code ++ "] " ++ d.location ++ ": " ++ d.message

def toJson (d : Diagnostic) : Json :=
  .object <|
    [("severity", .string "warning"), ("kind", .string d.kind.name),
      ("code", .string d.kind.code)] ++
    Json.optional "entity" (d.entity.map .string) ++
    Json.optional "property" (d.property.map .string) ++
    [("message", .string d.message)] ++
    Json.optional "descriptor" (if d.descriptor.isNull then none else some d.descriptor)

end Diagnostic

end EntityModel
