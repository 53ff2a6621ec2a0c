import EntityModel.Proofs.Entity.Columns

/-!
# Properties of a definition

What a property of a definition comes to by itself: a column unless it is a reference
(`Json.column?`), and at most one diagnostic (`Json.diagnostic?`). A compiled definition is these,
one property after another: its columns and hidden fields are those of its properties
(`toList_columns_compile`, `hiddenFields_compile`) and so are its diagnostics
(`compile_diagnostics`). Only the columns need the names of the properties to be distinct, as a
column that is set again keeps its place.
-/

namespace EntityModel

/-- The storage type of a property that is no reference. -/
def Descriptor.columnType (d : Descriptor) : StorageType :=
  match d.enum with
  | some values => .enum values
  | none => d.scalarType

namespace Json

def column? (value : Json) (property : String) : Option Column :=
  if value.reference?.isSome then none
  else
    let d := Descriptor.ofJson value
    some (Entity.columnOf property d d.columnType)

def diagnostic? (value : Json) (entity property : String) : Option Diagnostic :=
  let d := Descriptor.ofJson value
  if value.reference?.isSome || d.enum.isSome then none
  else d.fallback?.map fun (kind, message) =>
    { kind, entity := some entity, property := some property, message, descriptor := value }

/-- The name of a property whose column is hidden. -/
def hiddenName? (value : Json) (property : String) : Option String :=
  ((value.column? property).filter Column.hidden).map Column.name

theorem binding?_eq_none_iff (value : Json) (entity property : String) :
    value.binding? entity property = none ↔ value.reference? = none :=
  Option.map_eq_none_iff

section

variable {value : Json} {entity property : String}

theorem column?_of_reference (h : value.reference?.isSome = true) :
    value.column? property = none := by
  simp only [column?, h, if_true]

theorem column?_of_not_reference (h : value.reference? = none) :
    value.column? property =
      some (Entity.columnOf property (Descriptor.ofJson value)
        (Descriptor.ofJson value).columnType) := by
  simp only [column?, h, Option.isSome_none, Bool.false_eq_true, if_false]

theorem name_of_column? {column : Column} (h : value.column? property = some column) :
    column.name = property := by
  cases hreference : value.reference? with
  | some reference =>
    rw [column?_of_reference (Option.isSome_iff_exists.2 ⟨_, hreference⟩)] at h
    cases h
  | none =>
    rw [column?_of_not_reference hreference] at h
    cases h
    rfl

theorem names_column?_sublist (value : Json) (property : String) :
    ((value.column? property).toList.map Column.name).Sublist [property] := by
  cases hcolumn : value.column? property with
  | none => exact List.nil_sublist _
  | some column => exact List.singleton_sublist.2 (List.mem_singleton.2 (name_of_column? hcolumn))

theorem diagnostic?_of_reference (h : value.reference?.isSome = true) :
    value.diagnostic? entity property = none := by
  simp only [diagnostic?, h, Bool.true_or, if_true]

theorem of_diagnostic? {d : Diagnostic} (h : value.diagnostic? entity property = some d) :
    d.entity = some entity ∧ d.property = some property ∧ d.descriptor = value := by
  unfold diagnostic? at h
  dsimp only at h
  split at h
  · cases h
  · obtain ⟨found, -, rfl⟩ := Option.map_eq_some_iff.1 h
    exact ⟨rfl, rfl, rfl⟩

end

end Json

namespace Descriptor

theorem stringType_ne_enum (d : Descriptor) (values : List Json) :
    d.stringType ≠ .enum values := by
  unfold stringType
  split
  · cases SizeClass.ofMaxLength d.maxLength <;> nofun
  split
  · nofun
  split
  · nofun
  · cases SizeClass.ofMaxLength d.maxLength <;> nofun

theorem scalarType_ne_enum (d : Descriptor) (values : List Json) :
    d.scalarType ≠ .enum values := by
  unfold scalarType
  split
  · exact d.stringType_ne_enum values
  · nofun
  · nofun
  · unfold numberType
    split <;> nofun
  · nofun

theorem raw_ofJson (value : Json) : (ofJson value).raw = value := by
  cases value <;> rfl

theorem map_ofJson_of_not_reference {value : Json} (h : value.reference? = none)
    (entity property : String) :
    (ofJson value).map entity property =
      (.column (ofJson value).columnType, (value.diagnostic? entity property).toList) := by
  have hbinding : (ofJson value).binding? entity property = none := by
    rw [binding?_ofJson, Json.binding?_eq_none_iff]
    exact h
  unfold map columnType Json.diagnostic?
  cases henum : (ofJson value).enum with
  | some values => simp [hbinding, h, henum]
  | none =>
    cases hfallback : (ofJson value).fallback? with
    | none => simp [hbinding, h, henum, hfallback]
    | some found => simp [hbinding, h, henum, hfallback, raw_ofJson]

end Descriptor

namespace Entity

variable (e : Entity) (property : String) (value : Json)

/-! ## One property -/

theorem addProperty_eq :
    e.addProperty property value =
      ({ e with
          columns := (value.column? property).elim e.columns e.columns.insert
          hiddenFields := e.hiddenFields ++ (value.hiddenName? property).toList
          bindings := e.bindings ++ (value.binding? e.name property).toList },
        (value.diagnostic? e.name property).toList) := by
  cases hreference : value.reference? with
  | some reference =>
    have hsome : value.reference?.isSome = true := Option.isSome_iff_exists.2 ⟨_, hreference⟩
    have hbinding : value.binding? e.name property =
        some ⟨e.name, strippedName reference.1, property, reference.2⟩ := by
      rw [Json.binding?, hreference]
      rfl
    rw [addProperty_of_reference e property value hbinding, hbinding, Json.hiddenName?,
      Json.column?_of_reference hsome, Json.diagnostic?_of_reference hsome]
    simp
  | none =>
    have hbinding := (Json.binding?_eq_none_iff value e.name property).2 hreference
    unfold addProperty
    dsimp only
    rw [Descriptor.map_ofJson_of_not_reference hreference, hbinding, Json.hiddenName?,
      Json.column?_of_not_reference hreference]
    cases hhidden : (Descriptor.ofJson value).isHidden <;> simp [columnOf, hhidden, Option.filter]

theorem addProperty_columns_toList {property : String} (h : property ∉ e.columns.names) :
    (e.addProperty property value).1.columns.toList =
      e.columns.toList ++ (value.column? property).toList := by
  rw [addProperty_eq]
  cases hcolumn : value.column? property with
  | none => exact (List.append_nil _).symm
  | some column =>
    rw [← Json.name_of_column? hcolumn] at h
    exact ColumnMap.insertList_of_not_mem h

/-! ## All properties -/

theorem addProperties_hiddenFields (properties : Json.Fields) :
    (e.addProperties properties).1.hiddenFields =
      e.hiddenFields ++ properties.filterMap fun (property, value) =>
        value.hiddenName? property := by
  induction properties generalizing e with
  | nil => simp [addProperties]
  | cons field rest ih =>
    obtain ⟨property, value⟩ := field
    simp only [addProperties, ih, addProperty_eq, List.append_assoc]
    cases h : value.hiddenName? property <;> simp [h]

theorem addProperties_diagnostics (properties : Json.Fields) :
    (e.addProperties properties).2 =
      properties.filterMap fun (property, value) => value.diagnostic? e.name property := by
  induction properties generalizing e with
  | nil => rfl
  | cons field rest ih =>
    obtain ⟨property, value⟩ := field
    simp only [addProperties, ih, addProperty_eq]
    cases h : value.diagnostic? e.name property <;> simp [h]

/-- The columns are set one after another. -/
theorem addProperties_columns_eq (properties : Json.Fields) :
    (e.addProperties properties).1.columns =
      (properties.filterMap fun (property, value) => value.column? property).foldl
        ColumnMap.insert e.columns := by
  induction properties generalizing e with
  | nil => rfl
  | cons field rest ih =>
    obtain ⟨property, value⟩ := field
    simp only [addProperties, ih, addProperty_eq]
    cases h : value.column? property <;> simp [h]

theorem addProperties_columns_toList {properties : Json.Fields}
    (hkeys : (e.columns.names ++ properties.keys).Nodup) :
    (e.addProperties properties).1.columns.toList =
      e.columns.toList ++ properties.filterMap fun (property, value) =>
        value.column? property := by
  induction properties generalizing e with
  | nil => simp [addProperties]
  | cons field rest ih =>
    obtain ⟨property, value⟩ := field
    have hsplit : (e.columns.names ++ property :: Json.Fields.keys rest).Nodup := hkeys
    have hproperty : property ∉ e.columns.names := fun hmem =>
      (List.nodup_append.1 hsplit).2.2 property hmem property List.mem_cons_self rfl
    have hcolumns := addProperty_columns_toList e value hproperty
    -- the column that was added has the name of its property, which is not among the other ones
    have hrest :
        ((e.addProperty property value).1.columns.names ++ Json.Fields.keys rest).Nodup := by
      refine hsplit.sublist ?_
      rw [ColumnMap.names, hcolumns, List.map_append, List.append_assoc]
      refine List.Sublist.append_left ?_ _
      exact (Json.names_column?_sublist value property).append_right (Json.Fields.keys rest)
    have hcons : (e.addProperties ((property, value) :: rest)).1 =
        ((e.addProperty property value).1.addProperties rest).1 := rfl
    rw [hcons, ih _ hrest, hcolumns, List.append_assoc]
    cases hcolumn : value.column? property <;> simp [hcolumn]

/-! ## Compiled definitions -/

variable (name : String) (definition : Json)

theorem hiddenFields_compile :
    (compile name definition).1.hiddenFields =
      definition.properties.filterMap fun (property, value) => value.hiddenName? property := by
  rw [compile_fst, addProperties_hiddenFields, List.nil_append]

theorem columns_compile :
    (compile name definition).1.columns =
      (definition.properties.filterMap fun (property, value) => value.column? property).foldl
        ColumnMap.insert {} := by
  rw [compile_fst, addProperties_columns_eq]

theorem exists_of_mem_columns {name : String} {definition : Json} {c : Column}
    (h : c ∈ (compile name definition).1.columns.toList) :
    ∃ property value, (property, value) ∈ definition.properties ∧
      value.column? property = some c := by
  rw [columns_compile] at h
  rcases ColumnMap.mem_foldl_insert h with h | h
  · cases h
  · obtain ⟨⟨property, value⟩, hfield, hcolumn⟩ := List.mem_filterMap.1 h
    exact ⟨property, value, hfield, hcolumn⟩

theorem toList_columns_compile (hkeys : definition.properties.keys.Nodup) :
    (compile name definition).1.columns.toList =
      definition.properties.filterMap fun (property, value) => value.column? property := by
  rw [compile_fst, addProperties_columns_toList, List.nil_append]
  exact hkeys

/-- What is recorded for a definition without properties. -/
def missingProperties : Diagnostic where
  kind := .missingProperties
  entity := some name
  message := "definition has no properties mapping, registering without columns"
  descriptor := definition

theorem compile_diagnostics :
    (compile name definition).2 =
      match fieldsAt? definition "properties" with
      | some properties =>
        properties.filterMap fun (property, value) => value.diagnostic? name property
      | none => [missingProperties name definition] := by
  unfold compile
  cases fieldsAt? definition "properties" with
  | some properties => exact addProperties_diagnostics { name } properties
  | none => rfl

theorem entity_of_mem_compile {d : Diagnostic} (h : d ∈ (compile name definition).2) :
    d.entity = some name := by
  rw [compile_diagnostics] at h
  cases hproperties : fieldsAt? definition "properties" with
  | some properties =>
    rw [hproperties] at h
    obtain ⟨field, -, hfield⟩ := List.mem_filterMap.1 h
    exact (Json.of_diagnostic? hfield).1
  | none =>
    rw [hproperties] at h
    rw [List.mem_singleton.1 h]
    rfl

end Entity

end EntityModel
