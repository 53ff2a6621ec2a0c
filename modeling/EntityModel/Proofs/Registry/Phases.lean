import EntityModel.Registry
import EntityModel.Proofs.Backend.Log
import EntityModel.Proofs.Entity.References

/-!
# The phases of a registry

Each phase as one equation, over what the document says: registering adds the entities of the
document and declares them (`register_of_idle`), binding adds the relationships whose two sides
have handles and makes their associations (`bind_of_unbound`), and each of the two does nothing
the second time. What is said about a registry follows from these equations; no other module opens
a phase.
-/

namespace EntityModel

namespace Json

/-- A model has the definitions whose names start with a character that is not in lower case. -/
def isModelName (name : String) : Bool := name.toList.head?.any fun c => !Text.isLowercase c

theorem isModelName_iff {name : String} :
    isModelName name = true ↔ ∃ c rest, name.toList = c :: rest ∧ Text.isLowercase c = false := by
  unfold isModelName
  cases name.toList with
  | nil => simp
  | cons c rest => simp

theorem isEntityName_eq (name : String) : isEntityName name = isModelName name := by
  unfold isEntityName isModelName
  cases name.toList with
  | nil => rfl
  | cons c rest => rfl

/-- The definitions of a document; none if it has no object of them. -/
def definitions (document : Json) : Fields := (Entity.fieldsAt? document "definitions").getD []

namespace Fields

/-- The definitions whose names may be those of entities. -/
def models (definitions : Fields) : Fields := definitions.filter fun (name, _) => isModelName name

/-- The compiled definitions, with their bindings taken out. -/
def entities (models : Fields) : List Entity :=
  models.map fun (name, definition) => { (Entity.compile name definition).1 with bindings := [] }

/-- The bindings of the compiled definitions. -/
def bindings (models : Fields) : List Binding :=
  models.flatMap fun (name, definition) => (Entity.compile name definition).1.bindings

/-- The diagnostics of the compiled definitions. -/
def diagnostics (models : Fields) : List Diagnostic :=
  models.flatMap fun (name, definition) => (Entity.compile name definition).2

theorem names_entities (models : Fields) : models.entities.map Entity.name = models.keys := by
  simp [entities, keys, Function.comp_def]

end Fields

def models (document : Json) : Fields := document.definitions.models

def entities (document : Json) : List Entity := document.models.entities

def bindings (document : Json) : List Binding := document.models.bindings

def diagnostics (document : Json) : List Diagnostic :=
  match Entity.fieldsAt? document "definitions" with
  | some _ => document.models.diagnostics
  | none => [Registry.missingDefinitions]

theorem diagnostics_of_isSome {document : Json}
    (h : (Entity.fieldsAt? document "definitions").isSome = true) :
    document.diagnostics = document.models.diagnostics := by
  obtain ⟨definitions, hdefinitions⟩ := Option.isSome_iff_exists.1 h
  rw [diagnostics, hdefinitions]

end Json

/-- The two relationships of a wired binding. -/
def Binding.pair (x : Binding) : List Relationship :=
  [{ owner := x.target
     other := x.source
     association :=
       { cardinality := .hasMany
         role := none
         foreignKey := { name := none, constraints := true } }
     property := x.property
     shape := x.shape },
   { owner := x.target
     other := x.source
     association :=
       { cardinality := .belongsTo
         role := some x.source
         foreignKey := { name := some "id", constraints := false } }
     property := x.property
     shape := x.shape }]

theorem Binding.map_relationship_steps (x : Binding) : x.steps.map x.relationship = x.pair := rfl

namespace Handles

variable (handles : Handles)

/-- Is the binding wired, with these handles? -/
def wires (x : Binding) : Bool :=
  x.isBindable && (handles.lookup x.target).isSome && (handles.lookup x.source).isSome

/-- The relationships that wiring bindings adds. -/
def wired (bindings : List Binding) : List Relationship :=
  (bindings.filter handles.wires).flatMap Binding.pair

/-- The association that a backend is asked for, for a relationship whose sides have handles. -/
def link? (rel : Relationship) : Option RecordedAssociation :=
  match handles.lookup rel.owner, handles.lookup rel.other with
  | some owner, some target => some ⟨owner, target, rel.association⟩
  | _, _ => none

theorem exists_of_wires {x : Binding} (h : handles.wires x = true) :
    ∃ target source, handles.lookup x.target = some target ∧
      handles.lookup x.source = some source := by
  simp only [wires, Bool.and_eq_true, Option.isSome_iff_exists] at h
  obtain ⟨⟨-, target, htarget⟩, source, hsource⟩ := h
  exact ⟨target, source, htarget, hsource⟩

theorem link?_eq_some_iff {rel : Relationship} {link : RecordedAssociation} :
    handles.link? rel = some link ↔
      handles.lookup rel.owner = some link.owner ∧ handles.lookup rel.other = some link.target ∧
        link.association = rel.association := by
  obtain ⟨owner, target, association⟩ := link
  unfold link?
  cases handles.lookup rel.owner with
  | none => simp
  | some owner' =>
    cases handles.lookup rel.other with
    | none => simp
    | some target' => simp [eq_comm]

/-- The two associations of a wired binding are between the same two handles. -/
theorem filterMap_link?_pair {x : Binding} {target source : Handle}
    (htarget : handles.lookup x.target = some target)
    (hsource : handles.lookup x.source = some source) :
    x.pair.filterMap handles.link? =
      [⟨target, source, x.hasMany⟩, ⟨target, source, x.belongsTo⟩] := by
  simp [Binding.pair, link?, htarget, hsource, Binding.hasMany, Binding.belongsTo, primaryKeyName]

/-- Without handles nothing is wired. -/
theorem wired_nil (bindings : List Binding) : wired [] bindings = [] := by
  have hwires : ∀ x, wires [] x = false := fun x => by simp [wires]
  simp [wired, hwires]

theorem wired_append (bindings others : List Binding) :
    handles.wired (bindings ++ others) = handles.wired bindings ++ handles.wired others := by
  simp [wired]

theorem wired_flatMap {α : Type} (l : List α) (f : α → List Binding) :
    handles.wired (l.flatMap f) = l.flatMap fun a => handles.wired (f a) := by
  unfold wired
  rw [List.filter_flatMap, List.flatMap_assoc]

end Handles

namespace Registry

variable {σ : Type} (b : Backend σ) (r : Registry)

/-! ## Registering -/

theorem addDefinition_eq (name : String) (definition : Json) (s : σ) :
    r.addDefinition b name definition s =
      ((Entity.compile name definition).1.bindings,
        { r with
          entities := r.entities ++ [{ (Entity.compile name definition).1 with bindings := [] }]
          handles :=
            (name, (b.declare s name (Entity.compile name definition).1.columns).1) :: r.handles
          diagnostics := r.diagnostics ++ (Entity.compile name definition).2 },
        (b.declare s name (Entity.compile name definition).1.columns).2) := rfl

theorem addDefinitions_eq (definitions : Json.Fields) (s : σ) :
    r.addDefinitions b definitions s =
      (definitions.models.bindings,
        { r with
          entities := r.entities ++ definitions.models.entities
          handles := Table.handles (b.declareAll definitions.models.entities s).1 ++ r.handles
          diagnostics := r.diagnostics ++ definitions.models.diagnostics },
        (b.declareAll definitions.models.entities s).2) := by
  induction definitions generalizing r s with
  | nil =>
    simp [addDefinitions, Json.Fields.models, Json.Fields.bindings, Json.Fields.entities,
      Json.Fields.diagnostics, Backend.declareAll, Table.handles]
  | cons field rest ih =>
    obtain ⟨name, definition⟩ := field
    by_cases hname : isEntityName name = true
    · have hmodel : Json.isModelName name = true := Json.isEntityName_eq name ▸ hname
      have hmodels : Json.Fields.models ((name, definition) :: rest) =
          (name, definition) :: Json.Fields.models rest := List.filter_cons_of_pos hmodel
      simp only [addDefinitions, hname, if_true, addDefinition_eq, ih, hmodels]
      simp [Json.Fields.bindings, Json.Fields.entities, Json.Fields.diagnostics,
        Backend.declareAll, Table.handles]
    · have hmodel : ¬ Json.isModelName name = true := Json.isEntityName_eq name ▸ hname
      have hmodels : Json.Fields.models ((name, definition) :: rest) = Json.Fields.models rest :=
        List.filter_cons_of_neg hmodel
      simp only [addDefinitions, hname, ih, hmodels]
      rfl

theorem register_of_compiled (h : r.isCompiled = true) (document : Json) (s : σ) :
    r.register b document s = ([], r, s) := by
  simp [register, h]

/-- Registering a document adds its entities and diagnostics and declares the entities. -/
theorem register_of_idle (h : r.isCompiled = false) (document : Json) (s : σ) :
    r.register b document s =
      (document.bindings,
        { r with
          state := .compiled
          entities := r.entities ++ document.entities
          handles := Table.handles (b.declareAll document.entities s).1 ++ r.handles
          diagnostics := r.diagnostics ++ document.diagnostics },
        (b.declareAll document.entities s).2) := by
  unfold register Json.bindings Json.entities Json.diagnostics Json.models Json.definitions
  cases Entity.fieldsAt? document "definitions" with
  | some definitions => simp [h, addDefinitions_eq]
  | none =>
    simp [h, Json.Fields.models, Json.Fields.bindings, Json.Fields.entities, Backend.declareAll,
      Table.handles]

theorem isCompiled_register (document : Json) (s : σ) :
    (r.register b document s).2.1.isCompiled = true := by
  cases hcompiled : r.isCompiled with
  | true =>
    rw [register_of_compiled b r hcompiled]
    exact hcompiled
  | false =>
    rw [register_of_idle b r hcompiled]
    rfl

theorem bound_register (document : Json) (s : σ) :
    (r.register b document s).2.1.bound = r.bound := by
  cases hcompiled : r.isCompiled with
  | true => rw [register_of_compiled b r hcompiled]
  | false => rw [register_of_idle b r hcompiled]

/-! ## Binding -/

theorem addBinding_eq (x : Binding) (s : σ) :
    r.addBinding b x s =
      ({ r with relationships := r.relationships ++ Handles.wired r.handles [x] },
        b.relateAll ((Handles.wired r.handles [x]).filterMap (Handles.link? r.handles)) s) := by
  unfold addBinding handle?
  by_cases hbindable : x.isBindable = true
  · cases htarget : r.handles.lookup x.target with
    | none => simp [Handles.wired, Handles.wires, hbindable, htarget, Backend.relateAll]
    | some target =>
      cases hsource : r.handles.lookup x.source with
      | none => simp [Handles.wired, Handles.wires, hbindable, htarget, hsource, Backend.relateAll]
      | some source =>
        have hwired : Handles.wired r.handles [x] = x.pair := by
          simp [Handles.wired, Handles.wires, hbindable, htarget, hsource]
        have hlinks : x.pair.filterMap (Handles.link? r.handles) =
            x.steps.map fun step => ⟨target, source, step.association⟩ :=
          Handles.filterMap_link?_pair r.handles htarget hsource
        rw [hwired, hlinks, Backend.relateAll, List.foldl_map]
        simp [hbindable, Binding.map_relationship_steps]
  · simp [Handles.wired, Handles.wires, hbindable, Backend.relateAll]

/-- Wiring bindings adds their relationships, as the handles of the registry let it. -/
theorem addBindings_eq (bindings : List Binding) (s : σ) :
    r.addBindings b bindings s =
      ({ r with relationships := r.relationships ++ Handles.wired r.handles bindings },
        b.relateAll ((Handles.wired r.handles bindings).filterMap (Handles.link? r.handles))
          s) := by
  induction bindings generalizing r s with
  | nil => simp [addBindings, Handles.wired, Backend.relateAll]
  | cons x rest ih =>
    have hwired := Handles.wired_append r.handles [x] rest
    rw [List.singleton_append] at hwired
    simp only [addBindings, addBinding_eq, ih]
    rw [hwired, List.filterMap_append, Backend.relateAll_append, ← List.append_assoc]

theorem bind_of_bound (h : r.bound = true) (bindings : List Binding) (s : σ) :
    r.bind b bindings s = (r, s) := by
  simp [bind, h]

/-- The first binding adds the relationships of the bindings it wires, and makes their
associations. -/
theorem bind_of_unbound (h : r.bound = false) (bindings : List Binding) (s : σ) :
    r.bind b bindings s =
      ({ r with
          bound := true
          relationships := r.relationships ++ Handles.wired r.handles bindings },
        b.relateAll ((Handles.wired r.handles bindings).filterMap (Handles.link? r.handles))
          s) := by
  simp only [bind, h, Bool.false_eq_true, if_false, addBindings_eq]

theorem isCompiled_bind (bindings : List Binding) (s : σ) :
    (r.bind b bindings s).1.isCompiled = r.isCompiled := by
  cases hbound : r.bound with
  | true => rw [bind_of_bound b r hbound]
  | false =>
    rw [bind_of_unbound b r hbound]
    rfl

theorem bound_bind (bindings : List Binding) (s : σ) :
    (r.bind b bindings s).1.bound = true := by
  cases hbound : r.bound with
  | true =>
    rw [bind_of_bound b r hbound]
    exact hbound
  | false => rw [bind_of_unbound b r hbound]

/-! ## All phases -/

theorem initializeWith_of_compiled (h : r.isCompiled = true) (document : Json)
    (options : InitOptions) (s : σ) :
    r.initializeWith b document options s = (.ok .alreadyInitialized, r, s) := by
  simp [initializeWith, h]

theorem initializeWith_of_idle (h : r.isCompiled = false) (document : Json)
    (options : InitOptions) (s : σ) :
    r.initializeWith b document options s =
      (let registered := r.register b document s
       let bound := registered.2.1.bind b registered.1 registered.2.2
       let synchronized := b.synchronize bound.2 options.syncOptions
       (synchronized.1.map fun _ => .initialized, bound.1, synchronized.2)) := by
  simp only [initializeWith, h, Bool.false_eq_true, if_false]
  rfl

end Registry

end EntityModel
