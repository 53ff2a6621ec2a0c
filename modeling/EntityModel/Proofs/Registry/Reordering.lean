import EntityModel.Proofs.Document.Changes
import EntityModel.Proofs.Entity.Properties
import EntityModel.Proofs.Registry.Consistency

/-!
# The order of definitions and properties

The order of a document shows in the order of its model and in nothing else: reordered documents
(`Json.Reordered`) give the same entities, with the same columns and hidden fields, the same
relationships and the same diagnostics, up to order (`initializeWith_reordered`). A reference is
wired wherever the definition that it names stands, for binding only asks which names are those of
entities, and that is no matter of order.
-/

namespace EntityModel

/-- The same entity but for the order of its columns and hidden fields. -/
structure Entity.Alike (e e' : Entity) : Prop where
  name : e.name = e'.name
  columns : e.columns.toList.Perm e'.columns.toList
  hiddenFields : e.hiddenFields.Perm e'.hiddenFields

/-! ## One definition -/

section

variable {definition definition' : Json}
  (h : Json.ChangedAt "properties" (Json.Shuffled Eq) definition definition')
include h

theorem Json.properties_perm : definition.properties.Perm definition'.properties :=
  Fields.perm_of_shuffled_eq (h.getD_fieldsAt? fun _ => rfl)

namespace Entity

theorem compile_alike (hkeys : definition.properties.keys.Nodup) (name : String) :
    Alike { (compile name definition).1 with bindings := [] }
      { (compile name definition').1 with bindings := [] } := by
  have hperm := Json.properties_perm h
  have hkeys' : definition'.properties.keys.Nodup := (hperm.map Prod.fst).nodup_iff.1 hkeys
  refine ⟨?_, ?_, ?_⟩
  · dsimp only
    rw [compile_name, compile_name]
  · dsimp only
    rw [toList_columns_compile name definition hkeys,
      toList_columns_compile name definition' hkeys']
    exact hperm.filterMap _
  · dsimp only
    rw [hiddenFields_compile, hiddenFields_compile]
    exact hperm.filterMap _

theorem compile_diagnostics_perm (name : String) :
    (compile name definition).2.Perm (compile name definition').2 := by
  rcases h.fieldsAt?_cases with rfl | ⟨properties, properties', hfields, hfields', hshuffled⟩
  · exact .refl _
  · rw [compile_diagnostics, compile_diagnostics, hfields, hfields']
    exact (Json.Fields.perm_of_shuffled_eq hshuffled).filterMap _

end Entity

end

namespace Json

theorem propertyRelationships_congr {names names' : List String}
    (hnames : ∀ name, name ∈ names ↔ name ∈ names') (value : Json) (source property : String) :
    value.propertyRelationships names source property =
      value.propertyRelationships names' source property := by
  unfold propertyRelationships
  simp only [hnames]

/-! ## All definitions -/

section

variable {document other : Json} (h : document.Reordered other)
include h

theorem Reordered.models :
    Fields.Shuffled (ChangedAt "properties" (Shuffled Eq)) document.models other.models :=
  (ChangedAt.getD_fieldsAt? .refl h).filter isModelName

theorem Reordered.entityNames : document.entityNames.Perm other.entityNames :=
  h.models.keys_perm

theorem Reordered.relationships : document.relationships.Perm other.relationships := by
  refine h.models.flatMap_perm fun field _ field' hfield => ?_
  obtain ⟨source, definition⟩ := field
  obtain ⟨source', definition'⟩ := field'
  obtain ⟨rfl, hdefinition⟩ := hfield
  refine (properties_perm hdefinition).flatMap fun field _ => .of_eq ?_
  exact propertyRelationships_congr (fun _ => h.entityNames.mem_iff) field.2 source field.1

theorem Reordered.diagnostics : document.diagnostics.Perm other.diagnostics := by
  rcases ChangedAt.fieldsAt?_cases h with rfl | ⟨definitions, definitions', hfields, hfields', -⟩
  · exact .refl _
  · unfold Json.diagnostics
    rw [hfields, hfields']
    refine h.models.flatMap_perm fun field _ field' hfield => ?_
    obtain ⟨name, definition⟩ := field
    obtain ⟨name', definition'⟩ := field'
    obtain ⟨rfl, hdefinition⟩ := hfield
    exact Entity.compile_diagnostics_perm hdefinition name

theorem Reordered.exists_alike
    (hproperties : ∀ field ∈ document.definitions, field.2.properties.keys.Nodup) {e : Entity}
    (he : e ∈ document.entities) : ∃ e' ∈ other.entities, e.Alike e' := by
  obtain ⟨field, hmodel, rfl⟩ := List.mem_map.1 he
  obtain ⟨field', hmodel', hname, hdefinition⟩ := h.models.exists_of_mem hmodel
  refine ⟨_, List.mem_map_of_mem hmodel', ?_⟩
  obtain ⟨name, definition⟩ := field
  obtain ⟨name', definition'⟩ := field'
  cases hname
  exact Entity.compile_alike hdefinition (hproperties _ (List.mem_filter.1 hmodel).1) name

end

end Json

namespace Registry

variable {σ τ : Type}

/-- Where two registries have the same names and alike entities, looking a name up finds alike
entities. -/
theorem entity?_alike {r r' : Registry} (hnodup : (r.entities.map Entity.name).Nodup)
    (hnames : (r.entities.map Entity.name).Perm (r'.entities.map Entity.name))
    (halike : ∀ e ∈ r.entities, ∃ e' ∈ r'.entities, e.Alike e') (name : String) :
    Option.Rel Entity.Alike (r.entity? name) (r'.entity? name) := by
  cases hentity : r.entity? name with
  | none =>
    have habsent : r'.entity? name = none := by
      rw [← Option.not_isSome_iff_eq_none, entity?_isSome_iff, ← hnames.mem_iff,
        ← entity?_isSome_iff, hentity]
      exact Bool.false_ne_true
    rw [habsent]
    exact .none
  | some e =>
    obtain ⟨he, rfl⟩ := of_entity? hentity
    obtain ⟨e', he', halike⟩ := halike e he
    have hfound := (entity?_eq_some_iff (hnames.nodup_iff.1 hnodup)).2 ⟨he', halike.name.symm⟩
    rw [hfound]
    exact .some halike

/-- **What the order of a document decides**: nothing but the order of its model. -/
theorem initializeWith_reordered {document other : Json} (h : document.Reordered other)
    (hdefinitions : document.definitions.keys.Nodup)
    (hproperties : ∀ field ∈ document.definitions, field.2.properties.keys.Nodup)
    (b : Backend σ) (c : Backend τ) (options otherOptions : InitOptions) (s : σ) (t : τ) :
    let made := (initializeWith b {} document options s).2.1
    let again := (initializeWith c {} other otherOptions t).2.1
    (made.entities.map Entity.name).Perm (again.entities.map Entity.name) ∧
      (∀ name, Option.Rel Entity.Alike (made.entity? name) (again.entity? name)) ∧
      made.relationships.Perm again.relationships ∧ made.diagnostics.Perm again.diagnostics := by
  intro made again
  have hmade : made.entities = document.entities := entities_initializeWith b document options s
  have hagain : again.entities = other.entities := entities_initializeWith c other otherOptions t
  have hnames : (made.entities.map Entity.name).Perm (again.entities.map Entity.name) := by
    rw [hmade, hagain, Json.names_entities, Json.names_entities]
    exact h.entityNames
  have hnodup : (made.entities.map Entity.name).Nodup := by
    rw [hmade, Json.names_entities]
    exact Json.Fields.nodup_keys_models hdefinitions
  refine ⟨hnames, ?_, ?_, ?_⟩
  · refine entity?_alike hnodup hnames ?_
    rw [hmade, hagain]
    intro e he
    exact h.exists_alike hproperties he
  · unfold made again
    rw [relationships_initializeWith, relationships_initializeWith]
    exact h.relationships
  · unfold made again
    rw [diagnostics_initializeWith, diagnostics_initializeWith]
    exact h.diagnostics

/-- A definition that comes after the one that it refers to, and then before it, with its
properties turned around. -/
theorem initializeWith_reordered_comment :
    let id : String × Json := ("id", .string "integer")
    let post : String × Json := ("post", .object [("$ref", .string "#/definitions/Post")])
    let document : Json := .object [("definitions", .object
      [("Post", .object []), ("Comment", .object [("properties", .object [id, post])])])]
    let other : Json := .object [("definitions", .object
      [("Comment", .object [("properties", .object [post, id])]), ("Post", .object [])])]
    let made := (initializeWith Store.backend {} document {} {}).2.1
    let again := (initializeWith Store.backend {} other {} {}).2.1
    document.Reordered other ∧ document.definitions.keys.Nodup ∧
      (∀ field ∈ document.definitions, field.2.properties.keys.Nodup) ∧
      Option.Rel Entity.Alike (made.entity? "Comment") (again.entity? "Comment") ∧
      made.relationships.Perm again.relationships ∧ made.diagnostics.Perm again.diagnostics ∧
      made.relationships.length = 2 := by
  intro id post document other made again
  have hcomment : Json.ChangedAt "properties" (Json.Shuffled Eq)
      (.object [("properties", .object [id, post])])
      (.object [("properties", .object [post, id])]) :=
    @Json.ChangedAt.field _ _ [] [] _ _ List.not_mem_nil
      (.object ⟨_, .swap post id [], List.forall₂_same.2 fun _ _ => ⟨rfl, rfl⟩⟩)
  have hreordered : document.Reordered other :=
    @Json.ChangedAt.field _ _ [] [] _ _ List.not_mem_nil
      (.object ⟨_, .swap _ _ [], .cons ⟨rfl, hcomment⟩ (.cons ⟨rfl, .refl _⟩ .nil)⟩)
  have hproperties : ∀ field ∈ document.definitions, field.2.properties.keys.Nodup := by
    intro field hfield
    rcases List.mem_pair.1 hfield with rfl | rfl
    · decide
    · decide
  obtain ⟨-, hentities, hrelationships, hdiagnostics⟩ :=
    initializeWith_reordered hreordered (by decide) hproperties Store.backend Store.backend
      {} {} {} {}
  exact ⟨hreordered, by decide, hproperties, hentities "Comment", hrelationships, hdiagnostics,
    by decide⟩

end Registry

end EntityModel
