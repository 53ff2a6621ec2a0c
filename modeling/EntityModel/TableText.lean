import EntityModel.Registry

/-!
# Table texts

A model as `CREATE TABLE` statements, one for each entity in the order of registration, with an
empty line between them. Behind the table of an entity stand the relationships that it owns, as
comments.
-/

namespace EntityModel

/-- A name in a table text, between back quotes. -/
def quotedName (name : String) : String := Text.enclosed '\x60' name

def Column.sql (c : Column) : String :=
  let type := "  " ++ quotedName c.name ++ " " ++ c.type.sql
  match c.default with
  | some value => type ++ " DEFAULT " ++ value.literal
  | none => type

namespace Entity

/-- The line of the primary key. -/
def primaryKeyLine (name : String) : String := "  PRIMARY KEY (" ++ quotedName name ++ ")"

/-- The lines of a table between its first and its last. -/
def tableLines (e : Entity) : List String :=
  e.columns.toList.map Column.sql ++ (e.primaryKey?.map primaryKeyLine).toList

def tableText (e : Entity) : String :=
  let lines := e.tableLines
  "CREATE TABLE " ++ quotedName e.name ++ " (\n" ++
    (if lines.isEmpty then "" else ",\n".intercalate lines ++ "\n") ++ ");\n"

end Entity

/-- A relationship as a comment. -/
def Relationship.comment (r : Relationship) : String :=
  "-- " ++ r.owner ++ " " ++ r.association.cardinality.words ++ " " ++ r.other ++
    (match r.association.role with
      | some name => " as " ++ name
      | none => "") ++
    (match r.association.foreignKey.name with
      | some name => " (foreign key " ++ name ++ ")"
      | none => "") ++ "\n"

namespace Registry

/-- The relationships that an entity owns. -/
def owned (r : Registry) (e : Entity) : List Relationship :=
  r.relationships.filter (·.owner == e.name)

/-- The table of an entity with its comments. -/
def entityText (r : Registry) (e : Entity) : String :=
  e.tableText ++ String.join ((r.owned e).map Relationship.comment)

def tableText (r : Registry) : String := "\n".intercalate (r.entities.map r.entityText)

end Registry

end EntityModel
