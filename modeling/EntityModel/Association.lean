import EntityModel.Json.Value

/-!
# Associations

How an entity relates to another one, as a backend is told.
-/

namespace EntityModel

/-- The direction of an association. -/
inductive Cardinality where
  | hasMany
  | belongsTo
  deriving DecidableEq, Repr

namespace Cardinality

def words : Cardinality → String
  | .hasMany => "has many"
  | .belongsTo => "belongs to"

def name : Cardinality → String
  | .hasMany => "has_many"
  | .belongsTo => "belongs_to"

end Cardinality

structure ForeignKey where
  /-- The column; without one the backend chooses. -/
  name : Option String := none
  /-- Whether the backend enforces the key. -/
  constraints : Bool := true
  deriving DecidableEq, Repr

/-- How an entity relates to another one. -/
structure Association where
  cardinality : Cardinality
  /-- The name under which the owner knows the target, if it is not that of the target. -/
  role : Option String := none
  foreignKey : ForeignKey := {}
  deriving DecidableEq, Repr

/-- A field that is left out when there is no value. -/
def Json.optional (key : String) (value : Option Json) : List (String × Json) :=
  match value with
  | some value => [(key, value)]
  | none => []

/-- A field that is left out when it is false. -/
def Json.flag (key : String) (value : Bool) : List (String × Json) :=
  if value then [(key, .bool true)] else []

def ForeignKey.toJson (k : ForeignKey) : Json :=
  .object (Json.optional "name" (k.name.map .string) ++ [("constraints", .bool k.constraints)])

namespace Association

def fields (a : Association) : Json.Fields :=
  ("cardinality", .string a.cardinality.name) ::
    Json.optional "alias" (a.role.map .string) ++ [("foreign_key", a.foreignKey.toJson)]

def toJson (a : Association) : Json := .object a.fields

end Association

end EntityModel
