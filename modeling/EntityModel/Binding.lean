import EntityModel.Association
import EntityModel.Descriptor
import EntityModel.Text.Lowercase

/-!
# Bindings

A property that refers to another definition cannot be a column, for that definition may come later.
It becomes a binding: a record that is replayed once all entities are known, and then relates the
entity it refers to with the entity that has the property, in both directions.
-/

namespace EntityModel

/-- May the name be that of an entity? Its first character must not be lower case. -/
def isEntityName (name : String) : Bool :=
  match name.toList with
  | c :: _ => !Text.isLowercase c
  | [] => false

/-- What references to the definitions of the same document start with. -/
def definitionsPath : List Char := "#/definitions/".toList

/-- The definition that a reference names; a reference to somewhere else stays as it is. -/
def targetName (reference : String) : String :=
  if definitionsPath.isPrefixOf reference.toList then
    String.ofList (reference.toList.drop definitionsPath.length)
  else reference

/-- How a property refers to a definition. -/
inductive ReferenceShape where
  /-- The property is a reference. -/
  | direct
  /-- The property is an array of references. -/
  | array
  deriving DecidableEq, Repr

def ReferenceShape.name : ReferenceShape → String
  | .direct => "direct"
  | .array => "array"

/-- A relationship that is not wired yet. -/
structure Binding where
  /-- The entity that has the property. -/
  source : String
  /-- The entity that is referred to. -/
  target : String
  property : String
  shape : ReferenceShape
  deriving DecidableEq, Repr

structure BindingStep where
  owner : String
  other : String
  association : Association
  deriving DecidableEq, Repr

/-- The name of the property that is the primary key. -/
def primaryKeyName : String := "id"

namespace Binding

/-- Can the target be an entity? -/
def isBindable (b : Binding) : Bool := isEntityName b.target

/-- The association from the target to the source. -/
def hasMany (_ : Binding) : Association := { cardinality := .hasMany }

/-- The association back, under the name of the source. -/
def belongsTo (b : Binding) : Association where
  cardinality := .belongsTo
  role := some b.source
  foreignKey := ⟨some primaryKeyName, false⟩

/-- The two associations of a binding, in the order in which they are made. -/
def steps (b : Binding) : List BindingStep :=
  [⟨b.target, b.source, b.hasMany⟩, ⟨b.target, b.source, b.belongsTo⟩]

def toJson (b : Binding) : Json :=
  .object [("source", .string b.source), ("target", .string b.target),
    ("property", .string b.property), ("shape", .string b.shape.name)]

end Binding

/-- The binding of a property, if it is a reference or an array of references. -/
def Descriptor.binding? (entity property : String) (d : Descriptor) : Option Binding :=
  match d.reference with
  | some reference => some ⟨entity, targetName reference, property, .direct⟩
  | none =>
    if d.isArray then
      d.itemsReference.map fun reference => ⟨entity, targetName reference, property, .array⟩
    else none

end EntityModel
