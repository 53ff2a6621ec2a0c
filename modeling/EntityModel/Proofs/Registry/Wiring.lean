import Mathlib.Data.List.Forall2
import EntityModel.Proofs.Registry.Phases

/-!
# Relationships of a document

What initializing a new registry wires, said of the document alone: `Json.relationships` goes
through the definitions and their properties in order and gives a pair of relationships for every
reference to an entity of the document, before or after it. The registry ends with these
relationships and the backend is asked for them one by one (`initializeWith_new`,
`initializeWith_wires`), whether it synchronizes or not.

A reference that does not lead into the definitions of the document keeps its whole text as the
name it refers to, and that text may be the name of an entity
(`relationships_of_unprefixed_reference`).
-/

namespace EntityModel

namespace Json

/-- The names of the entities of a document. -/
def entityNames (document : Json) : List String := document.models.keys

/-- The relationships that a property calls for: a pair if it refers to one of the names. -/
def propertyRelationships (value : Json) (names : List String) (source property : String) :
    List Relationship :=
  match value.reference? with
  | some (reference, shape) =>
    if strippedName reference ∈ names then
      Binding.pair ⟨source, strippedName reference, property, shape⟩
    else []
  | none => []

/-- The relationships that a document calls for, in the order of its properties. -/
def relationships (document : Json) : List Relationship :=
  document.models.flatMap fun (source, definition) =>
    definition.properties.flatMap fun (property, value) =>
      value.propertyRelationships document.entityNames source property

theorem mem_entityNames_iff {document : Json} {name : String} :
    name ∈ document.entityNames ↔ name ∈ document.definitions.keys ∧ isModelName name = true := by
  constructor
  · intro h
    obtain ⟨field, hfield, rfl⟩ := List.mem_map.1 h
    obtain ⟨hmem, hname⟩ := List.mem_filter.1 hfield
    exact ⟨List.mem_map_of_mem hmem, hname⟩
  · rintro ⟨h, hname⟩
    obtain ⟨field, hfield, rfl⟩ := List.mem_map.1 h
    exact List.mem_map_of_mem (List.mem_filter.2 ⟨hfield, hname⟩)

theorem isEntityName_of_mem_entityNames {document : Json} {name : String}
    (h : name ∈ document.entityNames) : isEntityName name = true := by
  rw [isEntityName_eq]
  exact (mem_entityNames_iff.1 h).2

theorem names_entities (document : Json) :
    document.entities.map Entity.name = document.entityNames :=
  Fields.names_entities document.models

end Json

/-! ## The bindings of a document -/

namespace Handles

section

variable {handles : Handles} {names : List String}
  (hhandles : ∀ name, (handles.lookup name).isSome = true ↔ name ∈ names)
  (hnames : ∀ name ∈ names, isEntityName name = true)
include hhandles hnames

theorem wires_iff (x : Binding) :
    handles.wires x = true ↔ x.target ∈ names ∧ x.source ∈ names := by
  unfold wires Binding.isBindable
  rw [Bool.and_eq_true, Bool.and_eq_true, hhandles, hhandles]
  constructor
  · rintro ⟨⟨-, htarget⟩, hsource⟩
    exact ⟨htarget, hsource⟩
  · rintro ⟨htarget, hsource⟩
    exact ⟨⟨hnames _ htarget, htarget⟩, hsource⟩

theorem wired_property {source : String} (hsource : source ∈ names) (property : String)
    (value : Json) :
    handles.wired (value.binding? source property).toList =
      value.propertyRelationships names source property := by
  unfold Json.binding? Json.propertyRelationships
  cases value.reference? with
  | none => rfl
  | some found =>
    obtain ⟨reference, shape⟩ := found
    have hwires := wires_iff hhandles hnames ⟨source, strippedName reference, property, shape⟩
    by_cases htarget : strippedName reference ∈ names
    · simp [wired, hwires.2 ⟨htarget, hsource⟩, htarget]
    · have hnot : ¬ handles.wires ⟨source, strippedName reference, property, shape⟩ = true :=
        fun h => htarget (hwires.1 h).1
      simp [wired, hnot, htarget]

theorem wired_properties {source : String} (hsource : source ∈ names)
    (properties : Json.Fields) :
    handles.wired (properties.filterMap fun (property, value) => value.binding? source property) =
      properties.flatMap fun (property, value) =>
        value.propertyRelationships names source property := by
  rw [List.filterMap_eq_flatMap_toList, wired_flatMap]
  refine List.flatMap_congr fun field _ => ?_
  exact wired_property hhandles hnames hsource field.1 field.2

end

/-- The bindings of a document wire what its references call for, if the entities with handles
are those of the document. -/
theorem wired_bindings {handles : Handles} {document : Json}
    (hhandles : ∀ name, (handles.lookup name).isSome = true ↔ name ∈ document.entityNames) :
    handles.wired document.bindings = document.relationships := by
  unfold Json.bindings Json.Fields.bindings Json.relationships
  rw [wired_flatMap]
  refine List.flatMap_congr fun field hfield => ?_
  obtain ⟨source, definition⟩ := field
  have hsource : source ∈ document.entityNames := List.mem_map_of_mem hfield
  have hwired := wired_properties hhandles (fun _ => Json.isEntityName_of_mem_entityNames) hsource
    definition.properties
  rw [← Entity.compile_bindings] at hwired
  exact hwired

/-- Every relationship that is wired has handles on both sides. -/
theorem link?_isSome_of_mem_wired {handles : Handles} {bindings : List Binding}
    {rel : Relationship} (h : rel ∈ handles.wired bindings) :
    (handles.link? rel).isSome = true := by
  obtain ⟨x, hx, hrel⟩ := List.mem_flatMap.1 h
  obtain ⟨target, source, htarget, hsource⟩ := handles.exists_of_wires (List.mem_filter.1 hx).2
  rcases List.mem_pair.1 hrel with rfl | rfl
  · simp [link?, htarget, hsource]
  · simp [link?, htarget, hsource]

/-- The associations made for relationships are theirs one by one, if all have handles. -/
theorem forall₂_filterMap_link? {handles : Handles} {rels : List Relationship}
    (h : ∀ rel ∈ rels, (handles.link? rel).isSome = true) :
    List.Forall₂ (fun rel link => handles.link? rel = some link) rels
      (rels.filterMap handles.link?) := by
  induction rels with
  | nil => exact .nil
  | cons rel rest ih =>
    obtain ⟨link, hlink⟩ := Option.isSome_iff_exists.1 (h rel List.mem_cons_self)
    rw [List.filterMap_cons_some hlink]
    exact .cons hlink (ih fun other hother => h other (List.mem_cons_of_mem _ hother))

/-- The associations made for the relationships that bindings add. -/
theorem forall₂_wired (handles : Handles) (bindings : List Binding) :
    List.Forall₂ (fun rel link => handles.link? rel = some link) (handles.wired bindings)
      ((handles.wired bindings).filterMap handles.link?) :=
  forall₂_filterMap_link? fun _ hrel => link?_isSome_of_mem_wired hrel

end Handles

/-! ## Initializing -/

/-- The associations made in a log are those of relationships, one by one, with the handles that
declaring their two sides returned. -/
def BackendCall.Relate (calls : List BackendCall) (rels : List Relationship) : Prop :=
  List.Forall₂ (fun rel link => Handles.link? (Table.handles (tables calls)) rel = some link) rels
    (links calls)

namespace Registry

variable {σ : Type} (b : Backend σ)

/-- A registry that was initialized: the entities of a document, with handles and relationships. -/
def ofDocument (document : Json) (handles : Handles) (relationships : List Relationship) :
    Registry where
  state := .compiled
  entities := document.entities
  handles := handles
  relationships := relationships
  bound := true
  diagnostics := document.diagnostics

theorem lookup_declareAll_isSome_iff (document : Json) (s : σ) (name : String) :
    ((Table.handles (b.declareAll document.entities s).1).lookup name).isSome = true ↔
      name ∈ document.entityNames := by
  rw [Table.lookup_handles_isSome_iff, Backend.names_declareAll, Json.names_entities]

/-- Initializing a registry without a model: the entities are declared, their relationships are
made unless binding happened before, and then the backend synchronizes. -/
theorem initializeWith_new (bound : Bool) (document : Json) (options : InitOptions) (s : σ) :
    initializeWith b { bound } document options s =
      (let declared := b.declareAll document.entities s
       let handles := Table.handles declared.1
       let relationships := if bound then [] else document.relationships
       let synchronized :=
         b.synchronize (b.relateAll (relationships.filterMap handles.link?) declared.2)
           options.syncOptions
       (synchronized.1.map fun _ => .initialized, ofDocument document handles relationships,
         synchronized.2)) := by
  rw [initializeWith_of_idle b _ rfl, register_of_idle b _ rfl]
  dsimp only
  cases bound with
  | true =>
    rw [bind_of_bound b]
    · simp [ofDocument, Backend.relateAll]
    · rfl
  | false =>
    have hwired := Handles.wired_bindings (lookup_declareAll_isSome_iff b document s)
    rw [bind_of_unbound b, ← hwired]
    · simp [ofDocument]
    · rfl

/-- The calls of an initialization, in order: the declarations, the associations and the one
synchronization. -/
theorem initializeWith_logged (bound : Bool) (document : Json) (options : InitOptions) (s : σ)
    (calls : List BackendCall) :
    initializeWith b.logged { bound } document options (s, calls) =
      (let made := initializeWith b { bound } document options s
       let declared := b.declareAll document.entities s
       let links := (if bound then [] else document.relationships).filterMap
         (Handles.link? (Table.handles declared.1))
       let synchronized := b.synchronize (b.relateAll links declared.2) options.syncOptions
       (made.1, made.2.1, made.2.2,
         calls ++ declared.1.map .declare ++ links.map .relate ++
           [.synchronize options.syncOptions synchronized.1])) := by
  rw [initializeWith_new, initializeWith_new]
  dsimp only
  rw [Backend.declareAll_logged, Backend.relateAll_logged]
  rfl

theorem entities_initializeWith (document : Json) (options : InitOptions) (s : σ) :
    (initializeWith b {} document options s).2.1.entities = document.entities := by
  rw [initializeWith_new]
  rfl

theorem diagnostics_initializeWith (document : Json) (options : InitOptions) (s : σ) :
    (initializeWith b {} document options s).2.1.diagnostics = document.diagnostics := by
  rw [initializeWith_new]
  rfl

theorem relationships_initializeWith (document : Json) (options : InitOptions) (s : σ) :
    (initializeWith b {} document options s).2.1.relationships = document.relationships := by
  rw [initializeWith_new]
  rfl

/-- The associations made for the relationships of a document, with the handles of its entities. -/
theorem forall₂_relationships (document : Json) (s : σ) :
    let handles := Table.handles (b.declareAll document.entities s).1
    List.Forall₂ (fun rel link => Handles.link? handles rel = some link) document.relationships
      (document.relationships.filterMap (Handles.link? handles)) := by
  intro handles
  rw [← Handles.wired_bindings (lookup_declareAll_isSome_iff b document s)]
  exact Handles.forall₂_wired handles document.bindings

/-- The calls of the initialization of a new registry: every entity is declared once, and the
associations made are those of the relationships of the document. -/
theorem exists_calls_initializeWith (document : Json) (options : InitOptions) (s : σ) :
    let made := initializeWith b {} document options s
    ∃ calls, initializeWith b.logged {} document options (s, []) =
        (made.1, made.2.1, made.2.2, calls) ∧
      (BackendCall.tables calls).map Table.name = document.entityNames ∧
      BackendCall.Relate calls document.relationships := by
  refine ⟨_, initializeWith_logged b false document options s [], ?_, ?_⟩
  · simp [Backend.names_declareAll, Json.names_entities]
  · have hlinks := forall₂_relationships b document s
    simpa [BackendCall.Relate] using hlinks

/-- **What initializing a new registry wires**: the entities are the definitions whose names do not
start in lower case, the relationships are those that the references of the document call for, and
the backend is asked for exactly these, in order, with the handles that declaring their two sides
returned. The registry, the outcome and the state of the backend are those of the run whose calls
are kept. -/
theorem initializeWith_wires (document : Json) (options : InitOptions) (s : σ) :
    let made := initializeWith b {} document options s
    (∀ name, name ∈ document.entityNames ↔
        name ∈ document.definitions.keys ∧
          ∃ c rest, name.toList = c :: rest ∧ Text.isLowercase c = false) ∧
      made.2.1.entities.map Entity.name = document.entityNames ∧
      made.2.1.relationships = document.relationships ∧
      ∃ calls, initializeWith b.logged {} document options (s, []) =
          (made.1, made.2.1, made.2.2, calls) ∧
        (BackendCall.tables calls).map Table.name = document.entityNames ∧
        BackendCall.Relate calls document.relationships := by
  refine ⟨fun name => ?_, ?_, relationships_initializeWith b document options s,
    exists_calls_initializeWith b document options s⟩
  · rw [Json.mem_entityNames_iff, Json.isModelName_iff]
  · rw [entities_initializeWith]
    exact Json.names_entities document

/-- References back, to itself, forward and from a primary key, two to one entity, and some that
call for nothing: to a definition in lower case or from it, to none, and to another document. -/
def blogDocument : Json :=
  let reference (name : String) : Json := .object [("$ref", .string name)]
  let definition (properties : Json.Fields) : Json := .object [("properties", .object properties)]
  .object [("definitions", .object
    [("User", definition
        [("id", reference "#/definitions/Post"),
          ("posts", .object
            [("type", .string "array"), ("items", reference "#/definitions/Post")]),
          ("name", .string "string")]),
      ("draft", definition [("user", reference "#/definitions/User")]),
      ("Post", definition
        [("parent", reference "#/definitions/Post"), ("author", reference "#/definitions/User"),
          ("draft", reference "#/definitions/draft"), ("gone", reference "#/definitions/Gone"),
          ("old", reference "old.json#/definitions/User")])])]

/-- What is wired by an initialization whose synchronization fails. -/
theorem initializeWith_wires_blog :
    let made := initializeWith Store.backend {} blogDocument {} { failure := some "disk full" }
    made.1 = .error (.sync "disk full") ∧
      made.2.1.relationships =
        Binding.pair ⟨"User", "Post", "id", .direct⟩ ++
          Binding.pair ⟨"User", "Post", "posts", .array⟩ ++
          Binding.pair ⟨"Post", "Post", "parent", .direct⟩ ++
          Binding.pair ⟨"Post", "User", "author", .direct⟩ ∧
      made.2.2.associations.map (fun link => (link.owner.id, link.target.id)) =
        [(1, 0), (1, 0), (1, 0), (1, 0), (1, 1), (1, 1), (0, 1), (0, 1)] := by
  intro made
  obtain ⟨-, -, hrelationships, -⟩ :=
    initializeWith_wires Store.backend blogDocument {} { failure := some "disk full" }
  refine ⟨by decide, ?_, by decide⟩
  rw [hrelationships]
  decide

end Registry

/-! ## References that do not lead into the definitions -/

namespace Json

namespace Fields

/-- A field whose key comes once gives all of a concatenation to which only its key adds. -/
theorem flatMap_of_mem {β : Type} {fields : Fields} (hkeys : fields.keys.Nodup) {key : String}
    {value : Json} (hmem : (key, value) ∈ fields) {f : String × Json → List β}
    (hf : ∀ field ∈ fields, field.1 ≠ key → f field = []) :
    fields.flatMap f = f (key, value) := by
  induction fields with
  | nil => cases hmem
  | cons first rest ih =>
    obtain ⟨hfirst, hrest⟩ := List.nodup_cons.1 hkeys
    have hf' : ∀ field ∈ rest, field.1 ≠ key → f field = [] :=
      fun field hfield => hf field (List.mem_cons_of_mem _ hfield)
    rw [List.flatMap_cons]
    rcases List.mem_cons.1 hmem with rfl | hmem
    · have hnil : rest.flatMap f = [] := by
        refine List.flatMap_eq_nil_iff.2 fun field hfield => hf' field hfield fun hkey => ?_
        exact hfirst (List.mem_map.2 ⟨field, hfield, hkey⟩)
      rw [hnil, List.append_nil]
    · have hne : first.1 ≠ key := fun hkey => hfirst (List.mem_map.2 ⟨_, hmem, hkey.symm⟩)
      rw [hf first List.mem_cons_self hne, ih hrest hmem hf', List.nil_append]

theorem nodup_keys_models {definitions : Fields} (h : definitions.keys.Nodup) :
    definitions.models.keys.Nodup :=
  h.sublist (List.filter_sublist.map Prod.fst)

end Fields

theorem of_mem_propertyRelationships {value : Json} {names : List String}
    {source property : String} {rel : Relationship}
    (h : rel ∈ value.propertyRelationships names source property) :
    rel.other = source ∧ rel.property = property := by
  unfold propertyRelationships at h
  split at h
  · split at h
    · rcases List.mem_pair.1 h with rfl | rfl
      · exact ⟨rfl, rfl⟩
      · exact ⟨rfl, rfl⟩
    · cases h
  · cases h

/-- The relationships of a definition lead back to its entity. -/
theorem other_of_mem_flatMap {properties : Fields} {names : List String} {source : String}
    {rel : Relationship}
    (h : rel ∈ properties.flatMap fun (property, value) =>
      value.propertyRelationships names source property) : rel.other = source := by
  obtain ⟨field, -, hrel⟩ := List.mem_flatMap.1 h
  exact (of_mem_propertyRelationships hrel).1

/-- Where no key comes twice, the relationships of a property are those that it calls for. -/
theorem filter_relationships {document definition value : Json} {source property : String}
    (hdefinitions : document.definitions.keys.Nodup)
    (hproperties : definition.properties.keys.Nodup)
    (hdefinition : (source, definition) ∈ document.definitions)
    (hproperty : (property, value) ∈ definition.properties) :
    document.relationships.filter (fun rel => rel.other = source ∧ rel.property = property) =
      if source ∈ document.entityNames then
        value.propertyRelationships document.entityNames source property
      else [] := by
  -- a definition under another name has no part in it
  have hothers : ∀ field ∈ document.models, field.1 ≠ source →
      (field.2.properties.flatMap fun (property, value) =>
        value.propertyRelationships document.entityNames field.1 property).filter
          (fun rel => rel.other = source ∧ rel.property = property) = [] := by
    intro field _ hne
    refine List.filter_eq_nil_iff.2 fun rel hrel => ?_
    simp [other_of_mem_flatMap hrel, hne]
  unfold relationships
  rw [List.filter_flatMap]
  split
  · next hsource =>
    have hmodel : (source, definition) ∈ document.models :=
      List.mem_filter.2 ⟨hdefinition, (mem_entityNames_iff.1 hsource).2⟩
    have hmodels : document.models.keys.Nodup := Fields.nodup_keys_models hdefinitions
    rw [Fields.flatMap_of_mem hmodels hmodel hothers]
    dsimp only
    rw [List.filter_flatMap, Fields.flatMap_of_mem hproperties hproperty]
    · refine List.filter_eq_self.2 fun rel hrel => ?_
      exact decide_eq_true (of_mem_propertyRelationships hrel)
    · intro field _ hne
      refine List.filter_eq_nil_iff.2 fun rel hrel => ?_
      simp [(of_mem_propertyRelationships hrel).2, hne]
  · next hsource =>
    refine List.flatMap_eq_nil_iff.2 fun field hfield => hothers field hfield fun hkey => ?_
    exact hsource (hkey ▸ List.mem_map_of_mem hfield)

end Json

theorem strippedName_of_unprefixed {reference : String}
    (h : ¬ definitionsPath <+: reference.toList) : strippedName reference = reference := by
  rw [strippedName_eq]
  simp [targetName, h]

namespace Registry

variable {σ : Type} (b : Backend σ)

/-- **What becomes of a reference that does not lead into the definitions**: its whole text is the
name it refers to. Its property has the two relationships of an entity if that text is the name of
one, and none otherwise; the backend is asked for the relationships of the registry one by one and
for nothing else. -/
theorem relationships_of_unprefixed_reference {document definition value : Json}
    {source property reference : String} {shape : ReferenceShape}
    (hdefinitions : document.definitions.keys.Nodup)
    (hproperties : definition.properties.keys.Nodup)
    (hdefinition : (source, definition) ∈ document.definitions)
    (hproperty : (property, value) ∈ definition.properties)
    (hreference : value.reference? = some (reference, shape))
    (hforeign : ¬ definitionsPath <+: reference.toList) (options : InitOptions) (s : σ) :
    let made := initializeWith b {} document options s
    made.2.1.relationships.filter (fun rel => rel.other = source ∧ rel.property = property) =
        (if source ∈ document.entityNames ∧ reference ∈ document.entityNames then
          Binding.pair ⟨source, reference, property, shape⟩
        else []) ∧
      ∃ calls, initializeWith b.logged {} document options (s, []) =
          (made.1, made.2.1, made.2.2, calls) ∧
        BackendCall.Relate calls made.2.1.relationships := by
  obtain ⟨calls, hcalls, -, hrelate⟩ := exists_calls_initializeWith b document options s
  have hrelationships := relationships_initializeWith b document options s
  dsimp only
  rw [hrelationships]
  refine ⟨?_, calls, hcalls, hrelate⟩
  rw [Json.filter_relationships hdefinitions hproperties hdefinition hproperty]
  unfold Json.propertyRelationships
  rw [hreference]
  dsimp only
  rw [strippedName_of_unprefixed hforeign]
  by_cases hsource : source ∈ document.entityNames
  · simp [hsource]
  · simp [hsource]

/-- A document with the entities `Post` and `Comment`, of which the second refers to something. -/
def commentDocument (reference : String) : Json :=
  .object [("definitions", .object
    [("Post", .object []),
      ("Comment", .object
        [("properties", .object [("post", .object [("$ref", .string reference)])])])])]

theorem relationships_of_unprefixed_post :
    ¬ definitionsPath <+: "Post".toList ∧
      (initializeWith Store.backend {} (commentDocument "Post") {} {}).2.1.relationships.filter
          (fun rel => rel.other = "Comment" ∧ rel.property = "post") =
        Binding.pair ⟨"Comment", "Post", "post", .direct⟩ := by
  have hforeign : ¬ definitionsPath <+: "Post".toList := by decide
  have hdefinition :
      ("Comment",
          Json.object [("properties", .object [("post", .object [("$ref", .string "Post")])])]) ∈
        (commentDocument "Post").definitions :=
    List.mem_cons_of_mem _ List.mem_cons_self
  have hall := relationships_of_unprefixed_reference Store.backend (by decide) (by decide)
    hdefinition List.mem_cons_self rfl hforeign {} {}
  exact ⟨hforeign, hall.1⟩

/-- The name of an entity alone, which leads nowhere into the definitions, is wired. -/
theorem unprefixed_reference_is_wired :
    ¬ definitionsPath <+: "Post".toList ∧
      (initializeWith Store.backend {} (commentDocument "Post") {} {}).2.1.relationships =
        Binding.pair ⟨"Comment", "Post", "post", .direct⟩ ∧
      (initializeWith Store.backend {} (commentDocument "Post") {} {}).2.2.associations.length =
        2 := by
  decide

end Registry

end EntityModel
