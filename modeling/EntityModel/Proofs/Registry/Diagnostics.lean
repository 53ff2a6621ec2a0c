import EntityModel.Backend.Recorder
import EntityModel.Proofs.Entity.Fallbacks
import EntityModel.Proofs.Registry.Consistency

/-!
# Diagnostics of a document

Registering a document reports everything in it that a model cannot express, in the order of the
document, and reports nothing twice (`register_reports`). What there is to report is said of the
document alone (`Json.findings`). A diagnostic leads to where it comes from: its entity is
registered and its property is a column of that entity.
-/

namespace EntityModel

namespace Json

/-- What there is to report about a document: about its definitions with the names of entities, or
else that there are no definitions. -/
def findings (document : Json) : List Finding :=
  match Entity.fieldsAt? document "definitions" with
  | some _ => document.models.flatMap fun (name, definition) => definition.definitionFindings name
  | none => [⟨"W003", none, none, .null⟩]

theorem map_finding_diagnostics (document : Json) :
    document.diagnostics.map Diagnostic.finding = document.findings := by
  unfold diagnostics findings
  cases Entity.fieldsAt? document "definitions" with
  | none => rfl
  | some definitions =>
    dsimp only
    unfold Fields.diagnostics
    rw [List.map_flatMap]
    exact List.flatMap_congr fun field _ => Entity.compile_findings field.1 field.2

end Json

/-- Where a diagnostic leads to. -/
def Diagnostic.place (d : Diagnostic) : Option String × Option String := (d.entity, d.property)

namespace Entity

variable {name : String} {definition : Json} {d : Diagnostic}

theorem nodup_places_compile (hkeys : definition.properties.keys.Nodup) :
    ((compile name definition).2.map Diagnostic.place).Nodup := by
  rw [compile_diagnostics]
  unfold Json.properties at hkeys
  cases hproperties : fieldsAt? definition "properties" with
  | none => exact List.nodup_singleton _
  | some properties =>
    rw [hproperties] at hkeys
    have hdistinct : properties.Pairwise (·.1 ≠ ·.1) := List.pairwise_map.1 hkeys
    refine List.pairwise_map.2 (List.pairwise_filterMap.2 (hdistinct.imp ?_))
    intro field field' hne d hd d' hd' hplace
    have hproperty : d.property = d'.property := congrArg Prod.snd hplace
    rw [(Json.of_diagnostic? hd).2.1, (Json.of_diagnostic? hd').2.1] at hproperty
    exact hne (Option.some.inj hproperty)

/-- A diagnostic with a property comes from that property, which is no reference. -/
theorem exists_property_of_mem_compile (h : d ∈ (compile name definition).2) {property : String}
    (hproperty : d.property = some property) :
    ∃ value, (property, value) ∈ definition.properties ∧
      value.diagnostic? name property = some d := by
  rw [compile_diagnostics] at h
  unfold Json.properties
  cases hproperties : fieldsAt? definition "properties" with
  | none =>
    rw [hproperties] at h
    rw [List.mem_singleton.1 h] at hproperty
    cases hproperty
  | some properties =>
    rw [hproperties] at h
    obtain ⟨field, hfield, hd⟩ := List.mem_filterMap.1 h
    obtain ⟨property', value⟩ := field
    have hsame := (Json.of_diagnostic? hd).2.1.symm.trans hproperty
    cases hsame
    exact ⟨value, hfield, hd⟩

theorem mem_compile_of_diagnostic? {property : String} {value : Json}
    (hvalue : (property, value) ∈ definition.properties)
    (h : value.diagnostic? name property = some d) : d ∈ (compile name definition).2 := by
  rw [compile_diagnostics]
  unfold Json.properties at hvalue
  cases hproperties : fieldsAt? definition "properties" with
  | none =>
    rw [hproperties] at hvalue
    cases hvalue
  | some properties =>
    rw [hproperties] at hvalue
    exact List.mem_filterMap.2 ⟨(property, value), hvalue, h⟩

theorem mem_names_of_mem_compile (hkeys : definition.properties.keys.Nodup)
    (h : d ∈ (compile name definition).2) {property : String}
    (hproperty : d.property = some property) :
    property ∈ (compile name definition).1.columns.names := by
  obtain ⟨value, hvalue, hd⟩ := exists_property_of_mem_compile h hproperty
  cases hreference : value.reference? with
  | some reference =>
    rw [Json.diagnostic?_of_reference (Option.isSome_iff_exists.2 ⟨_, hreference⟩)] at hd
    cases hd
  | none =>
    unfold ColumnMap.names
    rw [toList_columns_compile name definition hkeys]
    exact List.mem_map.2 ⟨_, List.mem_filterMap.2 ⟨(property, value), hvalue,
      Json.column?_of_not_reference hreference⟩, rfl⟩

end Entity

namespace Json

section

variable {document : Json} (hdefinitions : document.definitions.keys.Nodup)
  (hproperties : ∀ field ∈ document.definitions, field.2.properties.keys.Nodup)
include hdefinitions hproperties

theorem nodup_places : (document.diagnostics.map Diagnostic.place).Nodup := by
  unfold diagnostics
  cases Entity.fieldsAt? document "definitions" with
  | none => exact List.nodup_singleton _
  | some definitions =>
    dsimp only
    unfold Fields.diagnostics
    rw [List.map_flatMap, List.nodup_flatMap]
    refine ⟨fun field hfield => ?_, ?_⟩
    · exact Entity.nodup_places_compile (hproperties field (List.mem_filter.1 hfield).1)
    · have hdistinct : document.models.Pairwise (·.1 ≠ ·.1) :=
        List.pairwise_map.1 (Fields.nodup_keys_models hdefinitions)
      refine hdistinct.imp fun {field field'} hne => List.disjoint_left.2 ?_
      intro place hplace hplace'
      obtain ⟨d, hd, rfl⟩ := List.mem_map.1 hplace
      obtain ⟨d', hd', hsame⟩ := List.mem_map.1 hplace'
      have hentity : d'.entity = d.entity := congrArg Prod.fst hsame
      rw [Entity.entity_of_mem_compile _ _ hd, Entity.entity_of_mem_compile _ _ hd'] at hentity
      exact hne (Option.some.inj hentity.symm)

end

variable {document : Json}

theorem isSome_of_mem_models {field : String × Json} (h : field ∈ document.models) :
    (Entity.fieldsAt? document "definitions").isSome = true := by
  unfold models definitions at h
  cases hfields : Entity.fieldsAt? document "definitions" with
  | some definitions => rfl
  | none =>
    rw [hfields] at h
    cases h

theorem exists_entity_of_mem_diagnostics
    (hproperties : ∀ field ∈ document.definitions, field.2.properties.keys.Nodup)
    (hobject : (Entity.fieldsAt? document "definitions").isSome = true) {d : Diagnostic}
    (h : d ∈ document.diagnostics) :
    ∃ e ∈ document.entities, d.entity = some e.name ∧
      ∀ property ∈ d.property, property ∈ e.columns.names := by
  rw [diagnostics_of_isSome hobject] at h
  obtain ⟨field, hfield, hd⟩ := List.mem_flatMap.1 h
  have hkeys := hproperties field (List.mem_filter.1 hfield).1
  refine ⟨_, List.mem_map_of_mem hfield, ?_, fun property hproperty => ?_⟩
  · rw [Entity.entity_of_mem_compile _ _ hd]
    exact congrArg some (Entity.compile_name field.1 field.2).symm
  · exact Entity.mem_names_of_mem_compile hkeys hd hproperty

section

variable {name property : String} {definition value : Json}
  (hdefinitions : document.definitions.keys.Nodup) (hmodel : (name, definition) ∈ document.models)
  (hkeys : definition.properties.keys.Nodup) (hvalue : (property, value) ∈ definition.properties)
include hdefinitions hmodel hkeys hvalue

/-- What is reported of a property is what it comes to by itself. -/
theorem mem_diagnostics_iff {d : Diagnostic} :
    d ∈ document.diagnostics ∧ d.place = (some name, some property) ↔
      value.diagnostic? name property = some d := by
  rw [diagnostics_of_isSome (isSome_of_mem_models hmodel)]
  constructor
  · rintro ⟨h, hplace⟩
    obtain ⟨hentity, hproperty⟩ := Prod.mk.inj hplace
    obtain ⟨field, hfield, hd⟩ := List.mem_flatMap.1 h
    rw [Entity.entity_of_mem_compile _ _ hd] at hentity
    -- no other definition has this name, and no other property of it that one
    have hsame := List.inj_on_of_nodup_map (Fields.nodup_keys_models hdefinitions) hfield hmodel
      (Option.some.inj hentity)
    subst hsame
    obtain ⟨value', hvalue', hd⟩ := Entity.exists_property_of_mem_compile hd hproperty
    cases List.inj_on_of_nodup_map hkeys hvalue' hvalue rfl
    exact hd
  · intro h
    obtain ⟨hentity, hproperty, -⟩ := of_diagnostic? h
    refine ⟨List.mem_flatMap.2 ⟨_, hmodel, ?_⟩, Prod.ext hentity hproperty⟩
    exact Entity.mem_compile_of_diagnostic? hvalue h

theorem exists_diagnostic_iff {code : String} :
    (∃ d ∈ document.diagnostics, d.place = (some name, some property) ∧ d.kind.code = code) ↔
      value.fallback? = some code := by
  have hmem : ∀ d, d ∈ document.diagnostics ∧ d.place = (some name, some property) ↔
      value.diagnostic? name property = some d :=
    fun d => mem_diagnostics_iff hdefinitions hmodel hkeys hvalue
  have hfinding := map_finding_diagnostic? value name property
  unfold propertyFinding? at hfinding
  constructor
  · rintro ⟨d, hd, hplace, rfl⟩
    rw [(hmem d).1 ⟨hd, hplace⟩] at hfinding
    obtain ⟨code, hcode, hsame⟩ := Option.map_eq_some_iff.1 hfinding.symm
    rw [hcode]
    exact congrArg (some ∘ Finding.code) hsame
  · intro hcode
    rw [hcode] at hfinding
    obtain ⟨d, hd, hsame⟩ := Option.map_eq_some_iff.1 hfinding
    obtain ⟨hmem, hplace⟩ := (hmem d).2 hd
    exact ⟨d, hmem, hplace, congrArg Finding.code hsame⟩

/-- The diagnostics tell a small blob that is a fallback from one that is a binary string. -/
theorem diagnostics_of_smallBlob {column : Column} (hcolumn : value.column? property = some column)
    (htype : column.type = .blob .small) :
    (∀ d ∈ document.diagnostics, d.place = (some name, some property) →
        d.kind.code ≠ "W001" ∧ d.kind.code ≠ "W002") ↔ value.IsSmallBinary := by
  have hcode : ∀ code, (∃ d ∈ document.diagnostics, d.place = (some name, some property) ∧
      d.kind.code = code) ↔ value.fallback? = some code :=
    fun code => exists_diagnostic_iff hdefinitions hmodel hkeys hvalue
  rw [← fallback?_of_smallBlob hcolumn htype]
  unfold Ne
  rw [← hcode, ← hcode]
  constructor
  · intro h
    constructor
    · rintro ⟨d, hd, hplace, hkind⟩
      exact (h d hd hplace).1 hkind
    · rintro ⟨d, hd, hplace, hkind⟩
      exact (h d hd hplace).2 hkind
  · rintro ⟨harray, hunknown⟩ d hd hplace
    exact ⟨fun hkind => harray ⟨d, hd, hplace, hkind⟩,
      fun hkind => hunknown ⟨d, hd, hplace, hkind⟩⟩

end

end Json

/-! ## Registering -/

namespace Registry

variable {σ : Type} (b : Backend σ)

/-- **What registering a document reports**: every fallback of the document and nothing else, in
the order of the document and each with the part of it that was found. No two diagnostics are of
one property or of one entity as a whole, and each leads to an entity and one of its columns. The
diagnostics tell whether a small blob is a fallback. -/
theorem register_reports {document : Json} (hdefinitions : document.definitions.keys.Nodup)
    (hproperties : ∀ field ∈ document.definitions, field.2.properties.keys.Nodup) (s : σ) :
    let made := (register b {} document s).2.1
    made.diagnostics.map Diagnostic.finding = document.findings ∧
      (made.diagnostics.map Diagnostic.place).Nodup ∧
      ((Entity.fieldsAt? document "definitions").isSome = true → ∀ d ∈ made.diagnostics,
        ∃ e ∈ made.entities, d.entity = some e.name ∧
          ∀ property ∈ d.property, property ∈ e.columns.names) ∧
      ∀ e ∈ made.entities, ∀ column ∈ e.columns.toList, column.type = .blob .small →
        ∃ definition value, (e.name, definition) ∈ document.definitions ∧
          (column.name, value) ∈ definition.properties ∧
          ((∀ d ∈ made.diagnostics, d.place = (some e.name, some column.name) →
              d.kind.code ≠ "W001" ∧ d.kind.code ≠ "W002") ↔ value.IsSmallBinary) := by
  rw [register_of_idle b {} rfl]
  dsimp only
  rw [List.nil_append, List.nil_append]
  refine ⟨Json.map_finding_diagnostics document, Json.nodup_places hdefinitions hproperties, ?_, ?_⟩
  · intro hobject d hd
    exact Json.exists_entity_of_mem_diagnostics hproperties hobject hd
  · intro e he column hcolumn htype
    obtain ⟨⟨name, definition⟩, hmodel, rfl⟩ := List.mem_map.1 he
    have hdefinition := (List.mem_filter.1 hmodel).1
    have hkeys := hproperties _ hdefinition
    dsimp only at hcolumn hkeys ⊢
    rw [Entity.toList_columns_compile name definition hkeys] at hcolumn
    obtain ⟨⟨property, value⟩, hvalue, hcolumn⟩ := List.mem_filterMap.1 hcolumn
    rw [Entity.compile_name, Json.name_of_column? hcolumn]
    refine ⟨definition, value, hdefinition, hvalue, ?_⟩
    exact Json.diagnostics_of_smallBlob hdefinitions hmodel hkeys hvalue hcolumn htype

/-- A document with all fallbacks of definitions, and with a small blob that is none. -/
theorem register_reports_files :
    let tags : Json := .object [("type", .string "array")]
    let note : Json := .object [("type", .string "memo")]
    let title : Json := .object [("type", .string "string"), ("maxLength", .string "long")]
    let icon : Json := .object
      [("type", .string "string"), ("format", .string "byte"), ("maxLength", .number (.int 300))]
    let file : Json := .object [("properties", .object
      [("tags", tags), ("note", note), ("title", title), ("icon", icon)])]
    let document : Json :=
      .object [("definitions", .object [("File", file), ("Empty", .object [])])]
    let made := (register Store.backend {} document {}).2.1
    document.definitions.keys.Nodup ∧
      (∀ field ∈ document.definitions, field.2.properties.keys.Nodup) ∧
      made.diagnostics.map Diagnostic.finding =
        [⟨"W001", some "File", some "tags", tags⟩, ⟨"W002", some "File", some "note", note⟩,
          ⟨"W005", some "File", some "title", title⟩, ⟨"W004", some "Empty", none, .object []⟩] ∧
      (made.diagnostics.map Diagnostic.place).Nodup ∧
      (∀ d ∈ made.diagnostics, ∃ e ∈ made.entities, d.entity = some e.name ∧
        ∀ property ∈ d.property, property ∈ e.columns.names) ∧
      ∃ e ∈ made.entities, ∃ column ∈ e.columns.toList,
        column.name = "icon" ∧ column.type = .blob .small ∧
        ∃ definition value, (e.name, definition) ∈ document.definitions ∧
          (column.name, value) ∈ definition.properties ∧
          ((∀ d ∈ made.diagnostics, d.place = (some e.name, some column.name) →
            d.kind.code ≠ "W001" ∧ d.kind.code ≠ "W002") ↔ value.IsSmallBinary) := by
  intro tags note title icon file document made
  have hdefinitions : document.definitions.keys.Nodup := by decide
  have hproperties : ∀ field ∈ document.definitions, field.2.properties.keys.Nodup := by
    intro field hfield
    rcases List.mem_pair.1 hfield with rfl | rfl
    · decide
    · decide
  let e : Entity := { (Entity.compile "File" file).1 with bindings := [] }
  let column : Column := Entity.columnOf "icon" (Descriptor.ofJson icon) (.blob .small)
  have he : e ∈ made.entities := List.mem_cons_self
  have hcolumn : column ∈ e.columns.toList := .tail _ (.tail _ (.tail _ (.head _)))
  obtain ⟨hfindings, hplaces, hentities, hblobs⟩ :=
    register_reports Store.backend hdefinitions hproperties {}
  exact ⟨hdefinitions, hproperties, hfindings.trans rfl, hplaces, hentities rfl, e, he, column,
    hcolumn, rfl, rfl, hblobs e he column hcolumn rfl⟩

end Registry

end EntityModel
