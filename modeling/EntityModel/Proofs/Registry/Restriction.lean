import EntityModel.Backend.Recorder
import EntityModel.Proofs.Entity.Properties
import EntityModel.Proofs.Registry.Wiring

/-!
# Documents with fewer definitions

A definition is compiled by itself. The other definitions of its document matter only to its
references, and only by which of them are entities. So a document that keeps just the definitions
with some names (`Json.restrict`) has the part of the model that belongs to these names, in the
same order (`initializeWith_restrict`). Nothing but the definitions of a document is read, and a
definition whose name is not that of an entity leaves nothing behind.
-/

namespace EntityModel

namespace Json

/-- The object with what stands under a key replaced. -/
def mapAt (key : String) (change : Json → Json) : Json → Json
  | .object fields =>
    .object (fields.map fun (k, value) => (k, if k = key then change value else value))
  | value => value

/-- The object without the fields whose keys are not kept. -/
def keepFields (keep : String → Bool) : Json → Json
  | .object fields => .object (fields.filter fun (key, _) => keep key)
  | value => value

/-- The document without the definitions whose names are not kept. -/
def restrict (document : Json) (keep : String → Bool) : Json :=
  document.mapAt "definitions" (keepFields keep)

theorem get?_mapAt (key : String) (change : Json → Json) (value : Json) :
    (value.mapAt key change).get? key = (value.get? key).map change := by
  cases value with
  | object fields =>
    have hfields : Fields.get? (fields.map fun (k, v) => (k, if k = key then change v else v)) key =
        (Fields.get? fields key).map change := by
      induction fields with
      | nil => rfl
      | cons field rest ih =>
        obtain ⟨k, v⟩ := field
        by_cases hkey : k = key
        · simp [Fields.get?_cons, hkey]
        · simpa [Fields.get?_cons, hkey] using ih
    exact hfields
  | null => rfl
  | bool _ => rfl
  | number _ => rfl
  | string _ => rfl
  | array _ => rfl

theorem fields?_keepFields (keep : String → Bool) (value : Json) :
    (value.keepFields keep).fields? =
      value.fields?.map fun fields => fields.filter fun (key, _) => keep key := by
  cases value <;> rfl

theorem Fields.flatMap_keep {β : Type} {fields : Fields} {keep : String → Bool}
    {f g : String × Json → List β}
    (h : ∀ field ∈ fields, g field = if keep field.1 then f field else []) :
    (fields.filter fun (key, _) => keep key).flatMap f = fields.flatMap g := by
  induction fields with
  | nil => rfl
  | cons field rest ih =>
    have hrest := ih fun other hother => h other (List.mem_cons_of_mem _ hother)
    rw [List.flatMap_cons, h field List.mem_cons_self, ← hrest]
    cases hkeep : keep field.1 <;> simp [hkeep]

section

variable (document : Json) (keep : String → Bool)

theorem fieldsAt?_restrict :
    Entity.fieldsAt? (document.restrict keep) "definitions" =
      (Entity.fieldsAt? document "definitions").map fun definitions =>
        definitions.filter fun (name, _) => keep name := by
  unfold Entity.fieldsAt? restrict
  rw [get?_mapAt, Option.bind_map, Option.map_bind]
  exact congrArg _ (funext fun value => fields?_keepFields keep value)

theorem models_restrict :
    (document.restrict keep).models = document.models.filter fun (name, _) => keep name := by
  unfold models definitions
  rw [fieldsAt?_restrict]
  cases Entity.fieldsAt? document "definitions" with
  | none => rfl
  | some definitions =>
    unfold Fields.models
    rw [Option.map_some, Option.getD_some, Option.getD_some, List.filter_filter,
      List.filter_filter]
    exact List.filter_congr fun field _ => Bool.and_comm _ _

theorem mem_entityNames_restrict {name : String} :
    name ∈ (document.restrict keep).entityNames ↔ name ∈ document.entityNames ∧ keep name := by
  unfold entityNames Fields.keys
  rw [models_restrict, List.mem_map, List.mem_map]
  constructor
  · rintro ⟨field, hfield, rfl⟩
    obtain ⟨hmodel, hkeep⟩ := List.mem_filter.1 hfield
    exact ⟨⟨field, hmodel, rfl⟩, hkeep⟩
  · rintro ⟨⟨field, hmodel, rfl⟩, hkeep⟩
    exact ⟨field, List.mem_filter.2 ⟨hmodel, hkeep⟩, rfl⟩

/-! ## Entities -/

theorem entities_restrict :
    (document.restrict keep).entities = document.entities.filter fun e => keep e.name := by
  unfold entities Fields.entities
  rw [models_restrict, List.filter_map]
  refine congrArg _ (List.filter_congr fun field _ => ?_)
  exact congrArg keep (Entity.compile_name field.1 field.2).symm

/-! ## Diagnostics -/

variable {document} in
/-- With an object of definitions, every diagnostic has an entity, which tells its part. -/
theorem diagnostics_restrict
    (hobject : (Entity.fieldsAt? document "definitions").isSome = true) :
    (document.restrict keep).diagnostics =
      document.diagnostics.filter fun d => d.entity.any keep := by
  have hpart : (Entity.fieldsAt? (document.restrict keep) "definitions").isSome = true := by
    rw [fieldsAt?_restrict, Option.isSome_map]
    exact hobject
  rw [diagnostics_of_isSome hobject, diagnostics_of_isSome hpart, models_restrict]
  unfold Fields.diagnostics
  rw [List.filter_flatMap]
  refine Fields.flatMap_keep fun field _ => ?_
  have hentity : ∀ d ∈ (Entity.compile field.1 field.2).2, d.entity.any keep = keep field.1 := by
    intro d hd
    rw [Entity.entity_of_mem_compile field.1 field.2 hd]
    rfl
  rw [List.filter_congr hentity]
  cases keep field.1 with
  | true => exact List.filter_true _
  | false => exact List.filter_false _

/-! ## Relationships -/

/-- A property keeps its relationships if its own entity and the one it refers to are kept. -/
theorem propertyRelationships_restrict {names names' : List String}
    (hnames : ∀ name, name ∈ names' ↔ name ∈ names ∧ keep name = true) (value : Json)
    (source property : String) :
    (value.propertyRelationships names source property).filter
        (fun rel => keep rel.owner && keep rel.other) =
      if keep source then value.propertyRelationships names' source property else [] := by
  unfold propertyRelationships
  cases value.reference? with
  | none => cases keep source <;> rfl
  | some found =>
    obtain ⟨reference, shape⟩ := found
    dsimp only
    by_cases htarget : strippedName reference ∈ names
    · cases hkeep : keep (strippedName reference) <;> cases hsource : keep source <;>
        simp [hnames, htarget, hkeep, hsource, Binding.pair]
    · simp [hnames, htarget]

theorem relationships_restrict :
    (document.restrict keep).relationships =
      document.relationships.filter fun rel => keep rel.owner && keep rel.other := by
  have hnames : ∀ name, name ∈ (document.restrict keep).entityNames ↔
      name ∈ document.entityNames ∧ keep name = true :=
    fun name => mem_entityNames_restrict document keep
  unfold relationships
  rw [List.filter_flatMap, models_restrict]
  refine Fields.flatMap_keep fun field _ => ?_
  rw [List.filter_flatMap]
  simp only [propertyRelationships_restrict keep hnames]
  cases keep field.1 with
  | true => rfl
  | false => exact List.flatMap_eq_nil_iff.2 fun _ _ => rfl

end

end Json

namespace Registry

variable {σ τ : Type}

/-- The definitions whose names may be those of entities are all that initializing reads of a
document, but for whether it has definitions at all. -/
theorem initializeWith_of_models_eq {document other : Json}
    (hmodels : other.models = document.models)
    (hobject : (Entity.fieldsAt? other "definitions").isSome =
      (Entity.fieldsAt? document "definitions").isSome)
    (b : Backend σ) (options : InitOptions) (s : σ) :
    initializeWith b {} other options s = initializeWith b {} document options s := by
  have hentities : other.entities = document.entities := congrArg Json.Fields.entities hmodels
  have hrelationships : other.relationships = document.relationships := by
    unfold Json.relationships Json.entityNames
    rw [hmodels]
  have hdiagnostics : other.diagnostics = document.diagnostics := by
    unfold Json.diagnostics
    rw [hmodels]
    cases hother : Entity.fieldsAt? other "definitions" with
    | some _ =>
      rw [hother] at hobject
      obtain ⟨_, hdocument⟩ := Option.isSome_iff_exists.1 hobject.symm
      rw [hdocument]
    | none =>
      rw [hother] at hobject
      have hdocument := Option.not_isSome_iff_eq_none.1 (Bool.eq_false_iff.1 hobject.symm)
      rw [hdocument]
  rw [initializeWith_new, initializeWith_new]
  unfold ofDocument
  rw [hentities, hrelationships, hdiagnostics]

/-- **What a document with fewer definitions becomes**: the model of the whole document without
what belongs to the other names. Definitions whose names are empty or start in lower case, however
many of them are left out, and what the document holds besides its definitions change nothing at
all. -/
theorem initializeWith_restrict {document : Json}
    (hobject : (Entity.fieldsAt? document "definitions").isSome = true) (keep : String → Bool)
    (b : Backend σ) (c : Backend τ) (options partOptions : InitOptions) (s : σ) (t : τ) :
    let whole := (initializeWith b {} document options s).2.1
    let part := (initializeWith c {} (document.restrict keep) partOptions t).2.1
    part.entities = whole.entities.filter (fun e => keep e.name) ∧
      part.relationships =
        whole.relationships.filter (fun rel => keep rel.owner && keep rel.other) ∧
      part.diagnostics = whole.diagnostics.filter (fun d => d.entity.any keep) ∧
      (∀ valid : String → Bool,
        (∀ name c rest, name.toList = c :: rest → Text.isLowercase c = false →
          valid name = true) →
        initializeWith b {} (document.restrict valid) options s =
          initializeWith b {} document options s) ∧
      ∀ other : Json, other.get? "definitions" = document.get? "definitions" →
        initializeWith b {} other options s = initializeWith b {} document options s := by
  dsimp only
  refine ⟨?_, ?_, ?_, ?_, ?_⟩
  · rw [entities_initializeWith, entities_initializeWith]
    exact Json.entities_restrict document keep
  · rw [relationships_initializeWith, relationships_initializeWith]
    exact Json.relationships_restrict document keep
  · rw [diagnostics_initializeWith, diagnostics_initializeWith]
    exact Json.diagnostics_restrict keep hobject
  · intro valid hvalid
    have hmodels : (document.restrict valid).models = document.models := by
      rw [Json.models_restrict]
      refine List.filter_eq_self.2 fun field hfield => ?_
      obtain ⟨c, rest, hname, hc⟩ := Json.isModelName_iff.1 (List.mem_filter.1 hfield).2
      exact hvalid field.1 c rest hname hc
    refine initializeWith_of_models_eq hmodels ?_ b options s
    rw [Json.fieldsAt?_restrict, Option.isSome_map]
  · intro other hother
    have hfields : Entity.fieldsAt? other "definitions" =
        Entity.fieldsAt? document "definitions" := by
      unfold Entity.fieldsAt?
      rw [hother]
    have hmodels : other.models = document.models := by
      unfold Json.models Json.definitions
      rw [hfields]
    exact initializeWith_of_models_eq hmodels (congrArg Option.isSome hfields) b options s

/-- Without the definition that refers to it, `Post` has no relationships. -/
theorem initializeWith_restrict_post :
    let document := commentDocument "#/definitions/Post"
    let other : Json := .object (("swagger", .string "2.0") :: document.fields?.getD [])
    let whole := (initializeWith Store.backend {} document {} {}).2.1
    let part :=
      (initializeWith Recorder.backend {} (document.restrict (· == "Post")) {} {}).2.1
    (Entity.fieldsAt? document "definitions").isSome = true ∧
      other.get? "definitions" = document.get? "definitions" ∧
      whole.relationships.length = 2 ∧ part.relationships = [] ∧
      part.entities.map Entity.name = ["Post"] ∧
      part.diagnostics = whole.diagnostics.filter (fun d => d.entity.any (· == "Post")) ∧
      initializeWith Store.backend {} other {} {} =
        initializeWith Store.backend {} document {} {} := by
  intro document other whole part
  have hobject : (Entity.fieldsAt? document "definitions").isSome = true := rfl
  have hother : other.get? "definitions" = document.get? "definitions" := rfl
  obtain ⟨hentities, hrelationships, hdiagnostics, -, hroot⟩ :=
    initializeWith_restrict hobject (· == "Post") Store.backend Recorder.backend {} {} {} {}
  refine ⟨hobject, hother, by decide, hrelationships.trans ?_, ?_, hdiagnostics,
    hroot other hother⟩
  · decide
  · rw [hentities]
    decide

end Registry

end EntityModel
