import EntityModel.Proofs.Registry.Restriction

/-!
# Documents with other properties

What becomes of a model when the properties of its document are changed, one by one and with the
names of the definitions and properties kept (`Json.revise`). A definition is its properties and
nothing else, so it is enough to know what the change does to one property: the entities stay the
same if each property keeps its column (`entities_revise`), and relationships and diagnostics
change as those of the properties do (`relationships_revise`, `diagnostics_revise`).
-/

namespace EntityModel

namespace Json

/-- The fields with their values changed, each as its key tells. -/
def Fields.mapValues (change : String → Json → Json) (fields : Fields) : Fields :=
  fields.map fun (key, value) => (key, change key value)

/-- The value with the fields of the object under a key changed, if there is such an object. -/
def mapFieldsAt (key : String) (change : String → Json → Json) (value : Json) : Json :=
  match Entity.fieldsAt? value key with
  | some fields => value.mapAt key fun _ => .object (fields.mapValues change)
  | none => value

/-- The document with its properties changed, each as the name of its definition and its own name
tell. -/
def revise (change : String → String → Json → Json) (document : Json) : Json :=
  document.mapFieldsAt "definitions" fun source => mapFieldsAt "properties" (change source)

theorem Fields.keys_mapValues (change : String → Json → Json) (fields : Fields) :
    (fields.mapValues change).keys = fields.keys := by
  unfold keys mapValues
  rw [List.map_map]
  rfl

theorem Fields.models_mapValues (change : String → Json → Json) (definitions : Fields) :
    (definitions.mapValues change).models = definitions.models.mapValues change := by
  unfold models mapValues
  rw [List.filter_map]
  rfl

theorem fieldsAt?_mapFieldsAt (key : String) (change : String → Json → Json) (value : Json) :
    Entity.fieldsAt? (value.mapFieldsAt key change) key =
      (Entity.fieldsAt? value key).map (Fields.mapValues change) := by
  unfold mapFieldsAt
  cases hfields : Entity.fieldsAt? value key with
  | none => exact hfields
  | some fields =>
    obtain ⟨found, hfound, -⟩ := Option.bind_eq_some_iff.1 hfields
    dsimp only
    rw [Entity.fieldsAt?, get?_mapAt, hfound]
    rfl

/-! ## One definition -/

section

variable (change : String → Json → Json) (definition : Json)

theorem properties_mapFieldsAt :
    (definition.mapFieldsAt "properties" change).properties =
      definition.properties.mapValues change := by
  unfold properties
  rw [fieldsAt?_mapFieldsAt]
  cases Entity.fieldsAt? definition "properties" <;> rfl

variable {change}

theorem compile_mapFieldsAt
    (hcolumn : ∀ property value, (change property value).column? property = value.column? property)
    (name : String) :
    { (Entity.compile name (definition.mapFieldsAt "properties" change)).1 with bindings := [] } =
      { (Entity.compile name definition).1 with bindings := [] } := by
  have hcolumns : (Entity.compile name (definition.mapFieldsAt "properties" change)).1.columns =
      (Entity.compile name definition).1.columns := by
    rw [Entity.columns_compile, Entity.columns_compile, properties_mapFieldsAt, Fields.mapValues,
      List.filterMap_map]
    refine congrArg (List.foldl ColumnMap.insert {}) (List.filterMap_congr fun field _ => ?_)
    exact hcolumn field.1 field.2
  have hhidden :
      (Entity.compile name (definition.mapFieldsAt "properties" change)).1.hiddenFields =
        (Entity.compile name definition).1.hiddenFields := by
    rw [Entity.hiddenFields_compile, Entity.hiddenFields_compile, properties_mapFieldsAt,
      Fields.mapValues, List.filterMap_map]
    refine List.filterMap_congr fun field _ => ?_
    simp only [Function.comp_apply, hiddenName?, hcolumn]
  rw [Entity.mk.injEq, Entity.compile_name, Entity.compile_name]
  exact ⟨rfl, hcolumns, hhidden, rfl⟩

theorem compile_diagnostics_mapFieldsAt {α : Type} {view : Diagnostic → α} {name : String}
    (hdiagnostic : ∀ property value, ((change property value).diagnostic? name property).map view =
      (value.diagnostic? name property).map view) :
    (Entity.compile name (definition.mapFieldsAt "properties" change)).2.map view =
      (Entity.compile name definition).2.map view := by
  cases hproperties : Entity.fieldsAt? definition "properties" with
  | none =>
    have hsame : definition.mapFieldsAt "properties" change = definition := by
      rw [mapFieldsAt, hproperties]
    rw [hsame]
  | some properties =>
    rw [Entity.compile_diagnostics, Entity.compile_diagnostics, fieldsAt?_mapFieldsAt, hproperties]
    dsimp only [Option.map_some]
    rw [List.map_filterMap, List.map_filterMap, Fields.mapValues, List.filterMap_map]
    refine List.filterMap_congr fun field _ => ?_
    exact hdiagnostic field.1 field.2

end

/-! ## All definitions -/

section

variable (change : String → String → Json → Json) (document : Json)

theorem models_revise :
    (document.revise change).models =
      document.models.mapValues fun source => mapFieldsAt "properties" (change source) := by
  unfold models definitions revise
  rw [fieldsAt?_mapFieldsAt]
  cases Entity.fieldsAt? document "definitions" with
  | none => rfl
  | some definitions =>
    rw [Option.map_some, Option.getD_some, Option.getD_some]
    exact Fields.models_mapValues _ definitions

theorem entityNames_revise : (document.revise change).entityNames = document.entityNames := by
  unfold entityNames
  rw [models_revise, Fields.keys_mapValues]

variable {change}

theorem entities_revise
    (hcolumn : ∀ source property value,
      (change source property value).column? property = value.column? property) :
    (document.revise change).entities = document.entities := by
  unfold entities Fields.entities
  rw [models_revise, Fields.mapValues, List.map_map]
  refine List.map_congr_left fun field _ => ?_
  exact compile_mapFieldsAt field.2 (hcolumn field.1) field.1

/-- The relationships change as those of each property do. -/
theorem relationships_revise {rewire : Relationship → Relationship}
    (hrewire : ∀ names source property value,
      (change source property value).propertyRelationships names source property =
        (value.propertyRelationships names source property).map rewire) :
    (document.revise change).relationships = document.relationships.map rewire := by
  unfold relationships
  rw [models_revise, entityNames_revise, Fields.mapValues, List.flatMap_map, List.map_flatMap]
  refine List.flatMap_congr fun field _ => ?_
  dsimp only
  rw [properties_mapFieldsAt, Fields.mapValues, List.flatMap_map, List.map_flatMap]
  refine List.flatMap_congr fun property _ => ?_
  exact hrewire document.entityNames field.1 property.1 property.2

/-- The diagnostics look the same if those of each property do. -/
theorem diagnostics_revise {α : Type} {view : Diagnostic → α}
    (hdiagnostic : ∀ source property value,
      ((change source property value).diagnostic? source property).map view =
        (value.diagnostic? source property).map view) :
    (document.revise change).diagnostics.map view = document.diagnostics.map view := by
  cases hdefinitions : Entity.fieldsAt? document "definitions" with
  | none =>
    have hsame : document.revise change = document := by
      rw [revise, mapFieldsAt, hdefinitions]
    rw [hsame]
  | some definitions =>
    have hrevised : (Entity.fieldsAt? (document.revise change) "definitions").isSome = true := by
      rw [revise, fieldsAt?_mapFieldsAt, hdefinitions]
      rfl
    rw [diagnostics_of_isSome hrevised, diagnostics_of_isSome (by rw [hdefinitions]; rfl),
      models_revise]
    unfold Fields.diagnostics
    rw [Fields.mapValues, List.flatMap_map, List.map_flatMap, List.map_flatMap]
    refine List.flatMap_congr fun field _ => ?_
    exact compile_diagnostics_mapFieldsAt field.2 (hdiagnostic field.1)

end

end Json

end EntityModel
