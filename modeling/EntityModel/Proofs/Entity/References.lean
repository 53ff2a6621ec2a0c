import Mathlib.Data.List.Basic
import EntityModel.Entity

/-!
# References of a definition

What a property refers to, read off the document itself (`Json.reference?`), and the proof that
compiling finds exactly these references: the bindings of a compiled definition are those of its
properties, one for each property that is a reference, in order (`compile_bindings`).

The compiler reads a property through its descriptor, where a bare string is a type and a field of
another form counts as absent; none of that shows in the bindings.
-/

namespace EntityModel

/-- The name of the definition that a reference leads to, without what local references start
with. -/
def strippedName (reference : String) : String :=
  match "#/definitions/".toList.isPrefixOf? reference.toList with
  | some name => String.ofList name
  | none => reference

theorem strippedName_eq (reference : String) : strippedName reference = targetName reference := by
  have hdrop : ∀ name, definitionsPath ++ name = reference.toList →
      reference.toList.drop definitionsPath.length = name := by
    intro name h
    rw [← h, List.drop_left]
  unfold strippedName targetName
  cases hprefix : "#/definitions/".toList.isPrefixOf? reference.toList with
  | some name =>
    have happend : definitionsPath ++ name = reference.toList :=
      List.isPrefixOf?_eq_some_iff_append_eq.1 hprefix
    have hisPrefix : definitionsPath.isPrefixOf reference.toList = true :=
      List.isPrefixOf_iff_prefix.2 ⟨name, happend⟩
    rw [if_pos hisPrefix, hdrop name happend]
  | none =>
    have hisPrefix : ¬ definitionsPath.isPrefixOf reference.toList = true := by
      intro h
      obtain ⟨name, happend⟩ := List.isPrefixOf_iff_prefix.1 h
      have hsome := List.isPrefixOf?_eq_some_iff_append_eq.2 happend
      exact nomatch hprefix.symm.trans hsome
    rw [if_neg hisPrefix]

namespace Json

/-- The text of the string under a key. -/
def textAt? (value : Json) (key : String) : Option String := (value.get? key).bind string?

/-- What a property refers to, and how: by a `$ref` of its own, or else, for an array, by that of
its items. -/
def reference? (value : Json) : Option (String × ReferenceShape) :=
  match value.textAt? "$ref" with
  | some reference => some (reference, .direct)
  | none =>
    if value.textAt? "type" = some "array" then
      ((value.get? "items").bind fun items => items.textAt? "$ref").map fun reference =>
        (reference, .array)
    else none

/-- The properties of a definition; none if it has no object of them. -/
def properties (definition : Json) : Fields := (Entity.fieldsAt? definition "properties").getD []

/-- The binding of a property of an entity, if it is a reference. -/
def binding? (value : Json) (entity property : String) : Option Binding :=
  value.reference?.map fun (reference, shape) => ⟨entity, strippedName reference, property, shape⟩

end Json

namespace Descriptor

theorem reference_ofJson (value : Json) : (ofJson value).reference = value.textAt? "$ref" := by
  cases value <;> rfl

theorem type_ofJson_object (fields : Json.Fields) :
    (ofJson (.object fields)).type = (Json.object fields).textAt? "type" := rfl

theorem itemsReference_ofJson (fields : Json.Fields) :
    (ofJson (.object fields)).itemsReference =
      ((Json.object fields).get? "items").bind fun items => items.textAt? "$ref" := by
  have hitems : (ofJson (.object fields)).items = (fields.get? "items").map ofJson :=
    itemsOf_eq fields
  have hget : (Json.object fields).get? "items" = fields.get? "items" := rfl
  rw [itemsReference, hitems, hget]
  cases fields.get? "items" with
  | none => rfl
  | some items => exact reference_ofJson items

/-- The descriptor of a property gives the binding that the property calls for. -/
theorem binding?_ofJson (entity property : String) (value : Json) :
    (ofJson value).binding? entity property = value.binding? entity property := by
  cases value with
  | object fields =>
    unfold binding? Json.binding? Json.reference?
    simp only [← strippedName_eq]
    rw [reference_ofJson, itemsReference_ofJson, isArray, type_ofJson_object]
    cases (Json.object fields).textAt? "$ref" with
    | some reference => rfl
    | none =>
      by_cases harray : (Json.object fields).textAt? "type" = some "array"
      · simp only [harray, BEq.rfl, if_true]
        cases ((Json.object fields).get? "items").bind fun items => items.textAt? "$ref" <;> rfl
      · simp [harray]
  | string name =>
    -- a bare string may name the type of arrays, but has no items
    by_cases harray : name = "array" <;>
      simp [binding?, Json.binding?, Json.reference?, Json.textAt?, Json.get?, Json.fields?, ofJson,
        isArray, itemsReference, harray]
  | null => rfl
  | bool _ => rfl
  | number _ => rfl
  | array _ => rfl

end Descriptor

namespace Entity

variable (e : Entity) (property : String) (value : Json)

/-- A property that is a reference adds its binding and nothing else. -/
theorem addProperty_of_reference {binding : Binding}
    (h : value.binding? e.name property = some binding) :
    e.addProperty property value = ({ e with bindings := e.bindings ++ [binding] }, []) := by
  rw [← Descriptor.binding?_ofJson] at h
  simp only [addProperty, Descriptor.map, h]

/-- A property that is no reference sets a column, and is listed if it is hidden. -/
theorem addProperty_of_column (h : value.binding? e.name property = none) :
    ∃ type, (e.addProperty property value).1 =
      { e with
        columns := e.columns.insert (columnOf property (Descriptor.ofJson value) type)
        hiddenFields :=
          if (Descriptor.ofJson value).isHidden then e.hiddenFields ++ [property]
          else e.hiddenFields } := by
  rw [← Descriptor.binding?_ofJson] at h
  cases henum : (Descriptor.ofJson value).enum with
  | some values => exact ⟨.enum values, by simp only [addProperty, Descriptor.map, h, henum]⟩
  | none =>
    exact ⟨(Descriptor.ofJson value).scalarType, by
      simp only [addProperty, Descriptor.map, h, henum]⟩

theorem addProperty_name : (e.addProperty property value).1.name = e.name := by
  cases h : value.binding? e.name property with
  | some binding => rw [addProperty_of_reference e property value h]
  | none =>
    obtain ⟨type, heq⟩ := addProperty_of_column e property value h
    rw [heq]

theorem addProperty_bindings :
    (e.addProperty property value).1.bindings =
      e.bindings ++ (value.binding? e.name property).toList := by
  cases h : value.binding? e.name property with
  | some binding => rw [addProperty_of_reference e property value h, Option.toList_some]
  | none =>
    obtain ⟨type, heq⟩ := addProperty_of_column e property value h
    rw [heq, Option.toList_none, List.append_nil]

theorem addProperties_name (properties : Json.Fields) :
    (e.addProperties properties).1.name = e.name := by
  induction properties generalizing e with
  | nil => rfl
  | cons field rest ih =>
    obtain ⟨property, value⟩ := field
    simp only [addProperties, ih, addProperty_name]

theorem addProperties_bindings (properties : Json.Fields) :
    (e.addProperties properties).1.bindings =
      e.bindings ++ properties.filterMap fun (property, value) =>
        value.binding? e.name property := by
  induction properties generalizing e with
  | nil => simp [addProperties]
  | cons field rest ih =>
    obtain ⟨property, value⟩ := field
    simp only [addProperties, ih, addProperty_name, addProperty_bindings, List.append_assoc]
    cases h : value.binding? e.name property with
    | none => simp [h]
    | some binding => simp [h]

/-- Compiling a definition is adding its properties to an entity without any. -/
theorem compile_fst (name : String) (definition : Json) :
    (compile name definition).1 = (addProperties { name } definition.properties).1 := by
  unfold compile Json.properties
  cases fieldsAt? definition "properties" <;> rfl

@[simp] theorem compile_name (name : String) (definition : Json) :
    (compile name definition).1.name = name := by
  rw [compile_fst, addProperties_name]

/-- The bindings of a compiled definition are those of its properties, in order. -/
theorem compile_bindings (name : String) (definition : Json) :
    (compile name definition).1.bindings =
      definition.properties.filterMap fun (property, value) => value.binding? name property := by
  rw [compile_fst, addProperties_bindings, List.nil_append]

end Entity

end EntityModel
