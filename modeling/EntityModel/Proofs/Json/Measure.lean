import EntityModel.Json.Value

/-!
# Depth and numbers of values

What decides whether the text of a value can be read: how deep its arrays and objects nest, and
which numbers it holds. Both are bounded together by `Fits`, which goes from a value to its parts
and from the parts to a value made of them.
-/

namespace EntityModel.Json

mutual

/-- How deep arrays and objects nest in a value. -/
def depth : Json → Nat
  | .array items => itemsDepth items + 1
  | .object fields => fieldsDepth fields + 1
  | .null => 0
  | .bool _ => 0
  | .number _ => 0
  | .string _ => 0

def itemsDepth : List Json → Nat
  | [] => 0
  | item :: rest => max item.depth (itemsDepth rest)

def fieldsDepth : List (String × Json) → Nat
  | [] => 0
  | (_, value) :: rest => max value.depth (fieldsDepth rest)

end

mutual

/-- The numbers in a value. -/
def numbers : Json → List Number
  | .number n => [n]
  | .array items => itemsNumbers items
  | .object fields => fieldsNumbers fields
  | .null => []
  | .bool _ => []
  | .string _ => []

def itemsNumbers : List Json → List Number
  | [] => []
  | item :: rest => item.numbers ++ itemsNumbers rest

def fieldsNumbers : List (String × Json) → List Number
  | [] => []
  | (_, value) :: rest => value.numbers ++ fieldsNumbers rest

end

theorem itemsDepth_le_iff {items : List Json} {limit : Nat} :
    itemsDepth items ≤ limit ↔ ∀ item ∈ items, item.depth ≤ limit := by
  induction items with
  | nil => simp [itemsDepth]
  | cons item rest ih => rw [itemsDepth, Nat.max_le, ih, List.forall_mem_cons]

theorem fieldsDepth_le_iff {fields : Fields} {limit : Nat} :
    fieldsDepth fields ≤ limit ↔ ∀ field ∈ fields, field.2.depth ≤ limit := by
  induction fields with
  | nil => simp [fieldsDepth]
  | cons field rest ih => rw [fieldsDepth, Nat.max_le, ih, List.forall_mem_cons]

theorem depth_lt_array {items : List Json} {item : Json} (h : item ∈ items) :
    item.depth < (array items).depth :=
  Nat.lt_succ_of_le (itemsDepth_le_iff.1 (Nat.le_refl _) item h)

theorem depth_lt_object {fields : Fields} {key : String} {value : Json}
    (h : (key, value) ∈ fields) :
    value.depth < (object fields).depth :=
  Nat.lt_succ_of_le (fieldsDepth_le_iff.1 (Nat.le_refl _) (key, value) h)

theorem mem_itemsNumbers {items : List Json} {n : Number} :
    n ∈ itemsNumbers items ↔ ∃ item ∈ items, n ∈ item.numbers := by
  induction items with
  | nil => simp [itemsNumbers]
  | cons item rest ih => simp [itemsNumbers, ih]

theorem mem_fieldsNumbers {fields : Fields} {n : Number} :
    n ∈ fieldsNumbers fields ↔ ∃ field ∈ fields, n ∈ field.2.numbers := by
  induction fields with
  | nil => simp [fieldsNumbers]
  | cons field rest ih => simp [fieldsNumbers, ih]

/-- A value that nests no deeper than a limit and has its numbers among some others. -/
structure Fits (limit : Nat) (allowed : Number → Prop) (value : Json) : Prop where
  depth_le : value.depth ≤ limit
  numbers : ∀ n ∈ value.numbers, allowed n

namespace Fits

variable {limit : Nat} {allowed : Number → Prop} {value part : Json}

theorem mono {limit' : Nat} (h : Fits limit allowed value) (hlimit : limit ≤ limit') :
    Fits limit' allowed value :=
  ⟨Nat.le_trans h.depth_le hlimit, h.numbers⟩

theorem string (s : String) : Fits limit allowed (.string s) :=
  ⟨Nat.zero_le _, by simp [Json.numbers]⟩

theorem bool (b : Bool) : Fits limit allowed (.bool b) :=
  ⟨Nat.zero_le _, by simp [Json.numbers]⟩

theorem array_iff {items : List Json} :
    Fits (limit + 1) allowed (.array items) ↔ ∀ item ∈ items, Fits limit allowed item := by
  constructor
  · rintro ⟨hdepth, hnumbers⟩ item hitem
    rw [depth, Nat.add_le_add_iff_right, itemsDepth_le_iff] at hdepth
    exact ⟨hdepth item hitem, fun n hn => hnumbers n (mem_itemsNumbers.2 ⟨item, hitem, hn⟩)⟩
  · intro h
    constructor
    · rw [depth, Nat.add_le_add_iff_right, itemsDepth_le_iff]
      exact fun item hitem => (h item hitem).depth_le
    · intro n hn
      obtain ⟨item, hitem, hn⟩ := mem_itemsNumbers.1 hn
      exact (h item hitem).numbers n hn

theorem object_iff {fields : Fields} :
    Fits (limit + 1) allowed (.object fields) ↔ ∀ field ∈ fields, Fits limit allowed field.2 := by
  constructor
  · rintro ⟨hdepth, hnumbers⟩ field hfield
    rw [depth, Nat.add_le_add_iff_right, fieldsDepth_le_iff] at hdepth
    exact ⟨hdepth field hfield, fun n hn => hnumbers n (mem_fieldsNumbers.2 ⟨field, hfield, hn⟩)⟩
  · intro h
    constructor
    · rw [depth, Nat.add_le_add_iff_right, fieldsDepth_le_iff]
      exact fun field hfield => (h field hfield).depth_le
    · intro n hn
      obtain ⟨field, hfield, hn⟩ := mem_fieldsNumbers.1 hn
      exact (h field hfield).numbers n hn

/-- A value under a key is one level below its object. -/
theorem of_mem_fields {fields : Fields} {key : String} (h : Fits limit allowed (.object fields))
    (hpart : (key, part) ∈ fields) : Fits (limit - 1) allowed part := by
  have hpos : 1 ≤ limit := Nat.le_trans (by simp [depth]) h.depth_le
  obtain ⟨below, rfl⟩ := Nat.exists_eq_add_of_le' hpos
  exact object_iff.1 h (key, part) hpart

end Fits

end EntityModel.Json
