import EntityModel.Json.Writer
import EntityModel.Text.Enclosed

/-!
# Storage types

The types of columns, and how a table text writes them and the literals that stand for values.
-/

namespace EntityModel

/-- The sizes of texts and blobs of variable length. -/
inductive SizeClass where
  | small
  | medium
  | long
  deriving DecidableEq, Repr

namespace SizeClass

/-- A maximal length above this asks for a small text or blob. -/
def smallThreshold : Nat := 255

/-- A maximal length above this asks for a medium text or blob. -/
def mediumThreshold : Nat := 21845

/-- A maximal length above this asks for a long text or blob. -/
def longThreshold : Nat := 5592415

/-- The class for a length of which `exceeds` tells whether it is greater than a threshold; `none`
if the length fits a short column. -/
def ofExceeds (exceeds : Nat → Bool) : Option SizeClass :=
  if exceeds longThreshold then some .long
  else if exceeds mediumThreshold then some .medium
  else if exceeds smallThreshold then some .small
  else none

/-- The class for a maximal length, if there is one. -/
def ofMaxLength (maxLength : Option Number) : Option SizeClass :=
  maxLength.bind fun n => ofExceeds n.exceeds

def name : SizeClass → String
  | .small => "small"
  | .medium => "medium"
  | .long => "long"

/-- What a table text puts in front of the type. -/
def sql : SizeClass → String
  | .small => ""
  | .medium => "MEDIUM"
  | .long => "LONG"

end SizeClass

/-- The widths of integer columns, in bits. -/
inductive IntWidth where
  | bits32
  | bits64
  deriving DecidableEq, Repr

def IntWidth.name : IntWidth → String
  | .bits32 => "32"
  | .bits64 => "64"

inductive StorageType where
  | integer (width : IntWidth) (unsigned : Bool)
  | float
  | double
  | boolean
  | string
  | binaryString
  | text (size : SizeClass)
  | blob (size : SizeClass)
  | date
  | dateTime
  /-- One of some literals, in the order in which they were declared. -/
  | enum (values : List Json)
  deriving Repr

/-- The literal of a value in a table text: a string between single quotes, an array or object as a
string of its compact text, a truth value as a digit. -/
def Json.literal : Json → String
  | .null => "NULL"
  | .bool true => "1"
  | .bool false => "0"
  | .number n => n.text
  | .string s => Text.enclosed '\'' s
  | value => Text.enclosed '\'' value.render

namespace StorageType

/-- The type of columns whose property is not understood. -/
def fallback : StorageType := .blob .small

/-- The type in a table text. An enumeration without literals has the empty string as its only
member. -/
def sql : StorageType → String
  | .integer .bits32 false => "INTEGER"
  | .integer .bits32 true => "INTEGER UNSIGNED"
  | .integer .bits64 false => "BIGINT"
  | .integer .bits64 true => "BIGINT UNSIGNED"
  | .float => "FLOAT"
  | .double => "DOUBLE PRECISION"
  | .boolean => "TINYINT(1)"
  | .string => "VARCHAR(255)"
  | .binaryString => "VARCHAR(255) BINARY"
  | .text size => size.sql ++ "TEXT"
  | .blob size => size.sql ++ "BLOB"
  | .date => "DATE"
  | .dateTime => "DATETIME"
  | .enum [] => "ENUM('')"
  | .enum values => "ENUM(" ++ ", ".intercalate (values.map Json.literal) ++ ")"

def toJson : StorageType → Json
  | .integer width unsigned =>
    .object [("kind", .string "integer"), ("width", .string width.name),
      ("unsigned", .bool unsigned)]
  | .float => .object [("kind", .string "float")]
  | .double => .object [("kind", .string "double")]
  | .boolean => .object [("kind", .string "boolean")]
  | .string => .object [("kind", .string "string")]
  | .binaryString => .object [("kind", .string "binary_string")]
  | .text size => .object [("kind", .string "text"), ("size", .string size.name)]
  | .blob size => .object [("kind", .string "blob"), ("size", .string size.name)]
  | .date => .object [("kind", .string "date")]
  | .dateTime => .object [("kind", .string "date_time")]
  | .enum values => .object [("kind", .string "enum"), ("values", .array values)]

end StorageType

end EntityModel
