import EntityModel.Json.Value

/-!
# Property descriptors

What a definition says about one of its properties. A string alone is the name of the type. A field
whose value has another form than expected counts as absent, so that every JSON value is a
descriptor.
-/

namespace EntityModel

/-- What is said about a property. -/
structure Descriptor where
  type : Option String := none
  format : Option String := none
  /-- Rounded to binary64, as the minimum is. -/
  maxLength : Option Number := none
  minimum : Option Number := none
  enum : Option (List Json) := none
  /-- The default value, which is not null. -/
  default : Option Json := none
  description : Option String := none
  reference : Option String := none
  items : Option Descriptor := none
  /-- The descriptor as the document has it. -/
  raw : Json
  deriving Repr

namespace Descriptor

/-- A string under a key. -/
def text? (fields : Json.Fields) (key : String) : Option String :=
  (fields.get? key).bind Json.string?

/-- A number under a key, rounded to binary64. -/
def number? (fields : Json.Fields) (key : String) : Option Number :=
  ((fields.get? key).bind Json.number?).map Number.rounded

/-- The default in the fields of a descriptor. -/
def default? (fields : Json.Fields) : Option Json :=
  (fields.get? "default").filter fun value => !value.isNull

mutual

/-- The descriptor that a value spells. -/
def ofJson : Json → Descriptor
  | .string name => { type := some name, raw := .string name }
  | .object fields =>
    { type := text? fields "type"
      format := text? fields "format"
      maxLength := number? fields "maxLength"
      minimum := number? fields "minimum"
      enum := (Json.Fields.get? fields "enum").bind Json.items?
      default := default? fields
      description := text? fields "description"
      reference := text? fields "$ref"
      items := itemsOf fields
      raw := .object fields }
  | value => { raw := value }

/-- The descriptor under the key `items`. -/
def itemsOf : List (String × Json) → Option Descriptor
  | [] => none
  | (key, value) :: rest => if key = "items" then some (ofJson value) else itemsOf rest

end

/-- The items are described by what stands under their key. -/
theorem itemsOf_eq (fields : Json.Fields) :
    itemsOf fields = (fields.get? "items").map ofJson := by
  induction fields with
  | nil => rfl
  | cons field rest ih =>
    obtain ⟨key, value⟩ := field
    by_cases h : key = "items"
    · simp [itemsOf, Json.Fields.get?_cons, h]
    · simp [itemsOf, Json.Fields.get?_cons, h, ih]

def isArray (d : Descriptor) : Bool := d.type == some "array"

def itemsReference (d : Descriptor) : Option String := d.items.bind reference

/-- Is there a minimum that is at least zero? -/
def isNonNegative (d : Descriptor) : Bool := d.minimum.any Number.isNonNegative

/-- Does the text contain the other one? -/
def contains (part : List Char) : List Char → Bool
  | [] => part.isEmpty
  | c :: rest => part.isPrefixOf (c :: rest) || contains part rest

/-- What marks a property as hidden in its description. -/
def hiddenMark : List Char := ['(', 'h', 'i', 'd', 'd', 'e', 'n', ')']

/-- Does the description carry the mark of hidden properties? -/
def isHidden (d : Descriptor) : Bool :=
  d.description.any fun text => contains hiddenMark text.toList

end Descriptor

end EntityModel
