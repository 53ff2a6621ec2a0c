import EntityModel.Column
import EntityModel.Mapping

/-!
# Entities

A definition compiled: its properties become columns or bindings, one after another. A property that
is a reference leaves nothing but a binding.
-/

namespace EntityModel

/-- A compiled definition. -/
structure Entity where
  name : String
  columns : ColumnMap := {}
  /-- The names of the hidden columns. -/
  hiddenFields : List String := []
  bindings : List Binding := []
  deriving Repr

namespace Entity

/-- The name of the primary key column. -/
def primaryKey? (e : Entity) : Option String :=
  (e.columns.toList.find? Column.primaryKey).map Column.name

/-- The columns with a default, and the defaults. -/
def defaults (e : Entity) : List (String × Json) :=
  e.columns.toList.filterMap fun column => column.default.map fun value => (column.name, value)

/-- The column of a property. -/
def columnOf (property : String) (d : Descriptor) (type : StorageType) : Column where
  name := property
  type := type
  primaryKey := property == primaryKeyName
  default := d.default
  hidden := d.isHidden

def addProperty (e : Entity) (property : String) (value : Json) : Entity × List Diagnostic :=
  let d := Descriptor.ofJson value
  match d.map e.name property with
  | (.reference binding, diagnostics) =>
    ({ e with bindings := e.bindings ++ [binding] }, diagnostics)
  | (.column type, diagnostics) =>
    ({ e with
        columns := e.columns.insert (columnOf property d type)
        hiddenFields := if d.isHidden then e.hiddenFields ++ [property] else e.hiddenFields },
      diagnostics)

/-- Adds properties in order. -/
def addProperties : Entity → Json.Fields → Entity × List Diagnostic
  | e, [] => (e, [])
  | e, (property, value) :: rest =>
    let (e, diagnostics) := e.addProperty property value
    let (e, others) := e.addProperties rest
    (e, diagnostics ++ others)

/-- The object under a key. -/
def fieldsAt? (value : Json) (key : String) : Option Json.Fields :=
  (value.get? key).bind Json.fields?

def compile (name : String) (definition : Json) : Entity × List Diagnostic :=
  match fieldsAt? definition "properties" with
  | some properties => addProperties { name } properties
  | none =>
    ({ name },
      [{ kind := .missingProperties, entity := some name,
         message := "definition has no properties mapping, registering without columns",
         descriptor := definition }])

/-- The entity as JSON, without its bindings. -/
def toJson (e : Entity) : Json :=
  .object <|
    [("name", .string e.name), ("columns", e.columns.toJson)] ++
    (if e.hiddenFields.isEmpty then []
      else [("hidden_fields", .array (e.hiddenFields.map .string))])

end Entity

end EntityModel
