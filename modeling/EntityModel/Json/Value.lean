import EntityModel.Binary64.Text

/-!
# JSON values

The values that schema documents are made of. The fields of an object keep the order in which their
keys first appeared; a key that is set again keeps its place and takes the new value, so
`Fields.insert` never repeats a key.
-/

namespace EntityModel

/-- A number of a document: exact while it is a 64 bit integer, else binary64. -/
inductive Number where
  | int (n : Int)
  | float (x : Binary64)
  deriving DecidableEq, Repr

namespace Number

def toBinary64 : Number → Option Binary64
  | .int n => (Binary64.ofNat n.natAbs).map (Binary64.withSign (n < 0))
  | .float x => some x

/-- The nearest binary64 number. -/
def rounded (n : Number) : Number := (n.toBinary64.map .float).getD n

/-- Is the value greater than `bound`? Compared exactly, whatever its form. -/
def exceeds : Number → Nat → Bool
  | .int n, bound => decide ((bound : Int) < n)
  | .float x, bound => x.exceeds bound

def isNonNegative : Number → Bool
  | .int n => decide (0 ≤ n)
  | .float x => x.isNonNegative

def text : Number → String
  | .int n => toString n
  | .float x => x.text

theorem toList_text_ofNat (n : Nat) : (int (.ofNat n)).text.toList = Nat.toDigits 10 n := by
  simp [text, toString, Int.repr, Nat.repr]

theorem toList_text_negSucc (n : Nat) :
    (int (.negSucc n)).text.toList = '-' :: Nat.toDigits 10 (n + 1) := by
  simp [text, toString, Int.repr, Nat.repr]

end Number

inductive Json where
  | null
  | bool (value : Bool)
  | number (value : Number)
  | string (value : String)
  | array (items : List Json)
  | object (fields : List (String × Json))
  deriving Repr, Inhabited

namespace Json

/-- The keys and values of an object, in order. -/
abbrev Fields := List (String × Json)

namespace Fields

def get? (fields : Fields) (key : String) : Option Json := fields.lookup key

def keys (fields : Fields) : List String := fields.map Prod.fst

/-- Sets a key: in its place if it is there, else at the end. -/
def insert : Fields → String → Json → Fields
  | [], key, value => [(key, value)]
  | (k, v) :: rest, key, value =>
    if k = key then (k, value) :: rest else (k, v) :: insert rest key value

/-- Sets the keys one after another. -/
def ofList (pairs : List (String × Json)) : Fields :=
  pairs.foldl (fun fields (key, value) => fields.insert key value) []

@[simp] theorem get?_nil (key : String) : get? [] key = none := rfl

theorem get?_cons (field : String × Json) (rest : Fields) (key : String) :
    get? (field :: rest) key = if field.1 = key then some field.2 else rest.get? key := by
  obtain ⟨k, value⟩ := field
  by_cases h : k = key
  · simp [get?, h]
  · have h' : (key == k) = false := by simpa using Ne.symm h
    simp [get?, List.lookup_cons, h, h']

/-- Setting a key gives it the value and leaves the other keys alone. -/
theorem get?_insert (fields : Fields) (key : String) (value : Json) (other : String) :
    (fields.insert key value).get? other =
      if key = other then some value else fields.get? other := by
  induction fields with
  | nil => simp [insert, get?_cons]
  | cons field rest ih =>
    obtain ⟨k, v⟩ := field
    by_cases hk : k = key
    · by_cases ho : key = other <;> simp [insert, get?_cons, hk, ho]
    · by_cases ho : key = other
      · subst ho
        simp [insert, get?_cons, hk, ih]
      · simp [insert, get?_cons, hk, ho, ih]

theorem insert_of_not_mem {fields : Fields} {key : String} {value : Json}
    (h : key ∉ fields.keys) : fields.insert key value = fields ++ [(key, value)] := by
  induction fields with
  | nil => rfl
  | cons field rest ih =>
    obtain ⟨k, v⟩ := field
    simp only [keys, List.map_cons, List.mem_cons, not_or] at h
    simp [insert, Ne.symm h.1, ih (by simpa [keys] using h.2)]

theorem keys_insert_of_mem {fields : Fields} {key : String} {value : Json}
    (h : key ∈ fields.keys) : (fields.insert key value).keys = fields.keys := by
  induction fields with
  | nil => simp [keys] at h
  | cons field rest ih =>
    obtain ⟨k, v⟩ := field
    by_cases hk : k = key
    · simp [insert, keys, hk]
    · have hr : key ∈ keys rest := by
        simpa [keys, Ne.symm hk] using h
      simpa [insert, keys, hk] using ih hr

/-- Setting a key keeps the keys distinct. -/
theorem nodup_keys_insert {fields : Fields} (key : String) (value : Json)
    (h : fields.keys.Nodup) : (fields.insert key value).keys.Nodup := by
  by_cases hk : key ∈ fields.keys
  · rw [keys_insert_of_mem hk]
    exact h
  · rw [insert_of_not_mem hk]
    simp only [keys, List.map_append, List.map_cons, List.map_nil]
    rw [List.nodup_append]
    refine ⟨h, by simp, ?_⟩
    intro a ha b hb
    simp only [List.mem_singleton] at hb
    subst hb
    exact fun hab => hk (hab ▸ ha)

end Fields

/-- The object with the given pairs, set one after another. -/
def ofPairs (pairs : List (String × Json)) : Json := .object (Fields.ofList pairs)

/-- The kind of a value, as messages call it. -/
def typeName : Json → String
  | .null => "null"
  | .bool _ => "boolean"
  | .number _ => "number"
  | .string _ => "string"
  | .array _ => "array"
  | .object _ => "object"

def string? : Json → Option String
  | .string s => some s
  | _ => none

def number? : Json → Option Number
  | .number n => some n
  | _ => none

def items? : Json → Option (List Json)
  | .array items => some items
  | _ => none

def fields? : Json → Option Fields
  | .object fields => some fields
  | _ => none

/-- The value under a key, for an object that has it. -/
def get? (value : Json) (key : String) : Option Json :=
  value.fields?.bind (Fields.get? · key)

def isNull : Json → Bool
  | .null => true
  | _ => false

def isObject : Json → Bool
  | .object _ => true
  | _ => false

end Json

end EntityModel
