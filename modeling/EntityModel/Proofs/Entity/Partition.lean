import Mathlib.Data.List.Nodup
import EntityModel.Proofs.Entity.Columns
import EntityModel.Proofs.Entity.Properties

/-!
# Columns and bindings of a definition

Compiling a definition sorts its properties into two: those that are references leave a binding
each, all other ones a column each, both in the order of the definition (`compile_partitions`). A
property is in one of the two and leaves no trace in the other, so that neither the default nor the
hidden mark of a reference comes up again. What a column keeps of its property is read off the
document alone (`Column.Keeps`).
-/

namespace EntityModel

namespace Json

/-- The default of a property, which is not null. -/
def default? (value : Json) : Option Json := (value.get? "default").filter (!·.isNull)

/-- A property is hidden if its description says so. -/
def IsHidden (value : Json) : Prop :=
  ∃ text, value.textAt? "description" = some text ∧ "(hidden)".toList <:+: text.toList

namespace Fields

/-- The properties that are references. -/
def references (properties : Fields) : Fields :=
  properties.filter fun field => field.2.reference?.isSome

/-- The properties that are no references. -/
def scalars (properties : Fields) : Fields :=
  properties.filter fun field => field.2.reference?.isNone

theorem disjoint_scalars_references {properties : Fields} (hkeys : properties.keys.Nodup) :
    properties.scalars.keys.Disjoint properties.references.keys := by
  intro key hscalar hreference
  obtain ⟨field, hfield, rfl⟩ := List.mem_map.1 hscalar
  obtain ⟨other, hother, hkey⟩ := List.mem_map.1 hreference
  obtain ⟨hfield, hnone⟩ := List.mem_filter.1 hfield
  obtain ⟨hother, hsome⟩ := List.mem_filter.1 hother
  obtain rfl := List.inj_on_of_nodup_map hkeys hother hfield hkey
  rw [Option.isNone_iff_eq_none.1 hnone] at hsome
  cases hsome

theorem mem_scalars_or_references {properties : Fields} {key : String} (h : key ∈ properties.keys) :
    key ∈ properties.scalars.keys ∨ key ∈ properties.references.keys := by
  obtain ⟨field, hfield, rfl⟩ := List.mem_map.1 h
  cases hreference : field.2.reference? with
  | some found =>
    exact .inr (List.mem_map_of_mem (List.mem_filter.2 ⟨hfield, by simp [hreference]⟩))
  | none => exact .inl (List.mem_map_of_mem (List.mem_filter.2 ⟨hfield, by simp [hreference]⟩))

/-- Fields that pass a test, each beside what it comes to. -/
theorem forall₂_filterMap {α : Type} (properties : Fields) {f : String × Json → Option α}
    {p : String × Json → Bool} {R : α → String × Json → Prop}
    (hsome : ∀ field a, f field = some a → p field = true ∧ R a field)
    (hnone : ∀ field, f field = none → p field = false) :
    List.Forall₂ R (properties.filterMap f) (properties.filter p) := by
  induction properties with
  | nil => exact .nil
  | cons field rest ih =>
    cases hfield : f field with
    | some a =>
      obtain ⟨hp, hR⟩ := hsome field a hfield
      rw [List.filterMap_cons_some hfield, List.filter_cons_of_pos hp]
      exact .cons hR ih
    | none =>
      rw [List.filterMap_cons_none hfield, List.filter_cons_of_neg (by simp [hnone field hfield])]
      exact ih

end Fields

end Json

namespace Descriptor

variable (value : Json)

theorem contains_iff {part text : List Char} : contains part text = true ↔ part <:+: text := by
  induction text with
  | nil =>
    rw [contains, List.isEmpty_iff, List.infix_nil]
  | cons c rest ih =>
    rw [contains, Bool.or_eq_true, ih, List.isPrefixOf_iff_prefix, List.infix_cons_iff]

theorem default_ofJson : (ofJson value).default = value.default? := by
  cases value <;> rfl

theorem description_ofJson : (ofJson value).description = value.textAt? "description" := by
  cases value <;> rfl

theorem isHidden_ofJson : (ofJson value).isHidden = true ↔ value.IsHidden := by
  unfold isHidden Json.IsHidden
  rw [description_ofJson, Option.any_eq_true]
  simp only [contains_iff]
  rfl

end Descriptor

/-- What a column keeps of its property, apart from the type. -/
structure Column.Keeps (c : Column) (field : String × Json) : Prop where
  name : c.name = field.1
  default : c.default = field.2.default?
  hidden : c.hidden = true ↔ field.2.IsHidden

/-- What a binding keeps of its property, but for the way in which it refers. -/
structure Binding.Keeps (b : Binding) (source : String) (field : String × Json) : Prop where
  source : b.source = source
  property : b.property = field.1

namespace Entity

variable (name : String) (definition : Json)

theorem keeps_columnOf (field : String × Json) (type : StorageType) :
    (columnOf field.1 (Descriptor.ofJson field.2) type).Keeps field where
  name := rfl
  default := Descriptor.default_ofJson field.2
  hidden := Descriptor.isHidden_ofJson field.2

theorem forall₂_columns (properties : Json.Fields) :
    List.Forall₂ Column.Keeps
      (properties.filterMap fun (property, value) => value.column? property)
      properties.scalars := by
  refine properties.forall₂_filterMap ?_ ?_
  · rintro ⟨property, value⟩ column hcolumn
    cases hreference : value.reference? with
    | some found =>
      simp only [Json.column?, hreference] at hcolumn
      cases hcolumn
    | none =>
      simp only [Json.column?, hreference] at hcolumn
      cases hcolumn
      exact ⟨rfl, keeps_columnOf (property, value) _⟩
  · rintro ⟨property, value⟩ hcolumn
    cases hreference : value.reference? with
    | some found => rfl
    | none =>
      simp only [Json.column?, hreference] at hcolumn
      cases hcolumn

theorem forall₂_bindings (properties : Json.Fields) :
    List.Forall₂ (fun b field => Binding.Keeps b name field)
      (properties.filterMap fun (property, value) => value.binding? name property)
      properties.references := by
  refine properties.forall₂_filterMap ?_ ?_
  · intro field b hbinding
    obtain ⟨found, hreference, rfl⟩ := Option.map_eq_some_iff.1 hbinding
    exact ⟨Option.isSome_iff_exists.2 ⟨found, hreference⟩, rfl, rfl⟩
  · intro field hbinding
    rw [(Json.binding?_eq_none_iff field.2 name field.1).1 hbinding]
    rfl

/-- The hidden fields are the names of the hidden columns. -/
theorem hiddenFields_eq (hkeys : definition.properties.keys.Nodup) :
    (compile name definition).1.hiddenFields =
      ((compile name definition).1.columns.toList.filter Column.hidden).map Column.name := by
  rw [hiddenFields_compile, toList_columns_compile name definition hkeys, List.filter_filterMap,
    List.map_filterMap]
  rfl

theorem primaryKey?_eq {e : Entity} (h : e.columns.WellFormed) :
    e.primaryKey? = if "id" ∈ e.columns.names then some "id" else none := by
  unfold primaryKey?
  cases hfound : e.columns.toList.find? Column.primaryKey with
  | some column =>
    have hname := (h.primaryKey_iff column (List.mem_of_find?_eq_some hfound)).1
      (List.find?_some hfound)
    have hmem : "id" ∈ e.columns.names :=
      List.mem_map.2 ⟨column, List.mem_of_find?_eq_some hfound, hname⟩
    rw [if_pos hmem, Option.map_some, hname]
  | none =>
    have hmem : "id" ∉ e.columns.names := by
      intro hmem
      obtain ⟨column, hcolumn, hname⟩ := List.mem_map.1 hmem
      exact List.find?_eq_none.1 hfound column hcolumn ((h.primaryKey_iff column hcolumn).2 hname)
    rw [if_neg hmem, Option.map_none]

theorem compile_of_isNone (h : fieldsAt? definition "properties" = none) :
    (compile name definition).1 = { name } := by
  rw [compile_fst, Json.properties, h]
  rfl

theorem map_eq_of_forall₂ {α : Type} {items : List α} {properties : Json.Fields} {f : α → String}
    (h : List.Forall₂ (fun a field => f a = field.1) items properties) :
    items.map f = properties.keys := by
  induction h with
  | nil => rfl
  | cons hfirst _ ih => rw [List.map_cons, ih, hfirst]; rfl

/-- **What compiling makes of the properties**: the columns are those of the properties that are no
references, one by one, and the bindings those of the references. No property is among both. The
hidden fields are the hidden columns, and the primary key is the property `id` unless that is a
reference. A definition without properties has nothing of all this. -/
theorem compile_partitions (hkeys : definition.properties.keys.Nodup) :
    let e := (compile name definition).1
    let scalars := definition.properties.scalars
    let references := definition.properties.references
    e.columns.names = scalars.keys ∧ List.Forall₂ Column.Keeps e.columns.toList scalars ∧
      e.bindings.map Binding.property = references.keys ∧
      List.Forall₂ (fun b field => Binding.Keeps b name field) e.bindings references ∧
      e.columns.names.Disjoint (e.bindings.map Binding.property) ∧
      (∀ property ∈ definition.properties.keys,
        property ∈ e.columns.names ∨ property ∈ e.bindings.map Binding.property) ∧
      e.hiddenFields = (e.columns.toList.filter Column.hidden).map Column.name ∧
      e.primaryKey? = (if "id" ∈ scalars.keys then some "id" else none) ∧
      (fieldsAt? definition "properties" = none →
        e.columns.toList = [] ∧ e.bindings = [] ∧ e.hiddenFields = []) := by
  have hcolumns := forall₂_columns definition.properties
  rw [← toList_columns_compile name definition hkeys] at hcolumns
  have hbindings := forall₂_bindings name definition.properties
  rw [← compile_bindings] at hbindings
  have hnames : (compile name definition).1.columns.names = definition.properties.scalars.keys :=
    map_eq_of_forall₂ (hcolumns.imp fun _ _ h => h.name)
  have hproperties := map_eq_of_forall₂ (hbindings.imp fun _ _ h => h.property)
  refine ⟨hnames, hcolumns, hproperties, hbindings, ?_, ?_, hiddenFields_eq name definition hkeys,
    ?_, ?_⟩
  · rw [hnames, hproperties]
    exact Json.Fields.disjoint_scalars_references hkeys
  · intro property hproperty
    rw [hnames, hproperties]
    exact Json.Fields.mem_scalars_or_references hproperty
  · rw [primaryKey?_eq (compile_columns name definition), hnames]
  · intro h
    rw [compile_of_isNone name definition h]
    exact ⟨rfl, rfl, rfl⟩

/-- A definition with a hidden reference that has a default beside a hidden column. -/
def userDefinition : Json :=
  .object [("properties", .object
    [("owner", .object
        [("$ref", .string "#/definitions/Owner"), ("description", .string "(hidden)"),
          ("default", .string "root")]),
      ("password", .object
        [("type", .string "string"), ("description", .string "Hash (hidden) at rest"),
          ("default", .null)]),
      ("id", .string "integer")])]

theorem compile_partitions_user :
    let e := (compile "User" userDefinition).1
    userDefinition.properties.keys.Nodup ∧ e.columns.names = ["password", "id"] ∧
      e.bindings.map Binding.property = ["owner"] ∧ e.hiddenFields = ["password"] ∧
      e.primaryKey? = some "id" := by
  have hkeys : userDefinition.properties.keys.Nodup := by decide
  obtain ⟨hnames, -, hproperties, -, -, -, hhidden, hid, -⟩ :=
    compile_partitions "User" userDefinition hkeys
  exact ⟨hkeys, hnames, hproperties, hhidden, hid⟩

end Entity

end EntityModel
