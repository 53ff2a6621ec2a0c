import EntityModel.Storage
import EntityModel.Association

/-!
# Columns

The columns of an entity in the order in which their names first came. Setting a column again
replaces it in its place.
-/

namespace EntityModel

structure Column where
  name : String
  type : StorageType
  primaryKey : Bool := false
  default : Option Json := none
  hidden : Bool := false
  deriving Repr

/-- The column as JSON; what is false or absent is left out. -/
def Column.toJson (c : Column) : Json :=
  .object <|
    [("name", .string c.name), ("type", c.type.toJson)] ++
    Json.flag "primary_key" c.primaryKey ++
    Json.optional "default_value" c.default ++
    Json.flag "hidden" c.hidden

/-- Columns in order. -/
structure ColumnMap where
  /-- The columns, of which no two that were inserted have one name. -/
  toList : List Column := []
  deriving Repr

namespace ColumnMap

def empty : ColumnMap := ⟨[]⟩

/-- The list with a column in the place of the one with its name, or at the end. -/
def insertList : List Column → Column → List Column
  | [], column => [column]
  | c :: rest, column =>
    if c.name = column.name then column :: rest else c :: insertList rest column

def insert (m : ColumnMap) (column : Column) : ColumnMap := ⟨insertList m.toList column⟩

def get? (m : ColumnMap) (name : String) : Option Column := m.toList.find? (·.name == name)

def contains (m : ColumnMap) (name : String) : Bool := (m.get? name).isSome

def names (m : ColumnMap) : List String := m.toList.map Column.name

def size (m : ColumnMap) : Nat := m.toList.length

def isEmpty (m : ColumnMap) : Bool := m.toList.isEmpty

def toJson (m : ColumnMap) : Json := .array (m.toList.map Column.toJson)

end ColumnMap

end EntityModel
