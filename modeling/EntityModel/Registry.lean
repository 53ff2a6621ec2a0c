import EntityModel.Backend.Basic
import EntityModel.Entity

/-!
# The registry

The entities of a document and how they relate, made in three phases. Registering compiles and
declares every definition whose name may be that of an entity, and collects the bindings. Binding
replays them: only then are all entities known, so a reference may point forward. Synchronizing asks
the backend to create its structures. Registering and binding happen at most once each; an
initialization is all three in a row.
-/

namespace EntityModel

/-- Whether a registry has a model. -/
inductive RegistryState where
  | idle
  | compiled
  deriving DecidableEq, Repr

def RegistryState.name : RegistryState → String
  | .idle => "idle"
  | .compiled => "compiled"

inductive InitOutcome where
  | initialized
  /-- The registry had a model already. -/
  | alreadyInitialized
  deriving DecidableEq, Repr

/-- A relationship that was wired. -/
structure Relationship where
  owner : String
  other : String
  association : Association
  /-- The property of `other` that refers to `owner`. -/
  property : String
  shape : ReferenceShape
  deriving DecidableEq, Repr

def Relationship.toJson (r : Relationship) : Json :=
  .object <|
    [("owner", .string r.owner), ("other", .string r.other)] ++ r.association.fields ++
    [("property", .string r.property), ("shape", .string r.shape.name)]

/-- The relationship of a step of a binding. -/
def Binding.relationship (b : Binding) (step : BindingStep) : Relationship :=
  ⟨step.owner, step.other, step.association, b.property, b.shape⟩

/-- The entities of a document and how they relate. -/
structure Registry where
  state : RegistryState := .idle
  /-- The entities in the order of their registration. -/
  entities : List Entity := []
  /-- The handles of the entities, the last one first. -/
  handles : List (String × Handle) := []
  /-- The relationships in the order in which they were wired. -/
  relationships : List Relationship := []
  bound : Bool := false
  diagnostics : List Diagnostic := []
  deriving Repr

namespace Registry

/-- Has the registry a model? -/
def isCompiled (r : Registry) : Bool := r.state == .compiled

def entity? (r : Registry) (name : String) : Option Entity := r.entities.find? (·.name == name)

def handle? (r : Registry) (name : String) : Option Handle := r.handles.lookup name

/-- The relationships that have a name on either side. -/
def relationshipsOf (r : Registry) (name : String) : List Relationship :=
  r.relationships.filter fun rel => rel.owner == name || rel.other == name

variable {σ : Type} (b : Backend σ)

/-- Registers one definition. -/
def addDefinition (r : Registry) (name : String) (definition : Json) (s : σ) :
    List Binding × Registry × σ :=
  let (entity, diagnostics) := Entity.compile name definition
  let (handle, s) := b.declare s name entity.columns
  (entity.bindings,
    { r with
      entities := r.entities ++ [{ entity with bindings := [] }]
      handles := (name, handle) :: r.handles
      diagnostics := r.diagnostics ++ diagnostics },
    s)

/-- Registers definitions in order, except those whose names are not those of entities. -/
def addDefinitions : Registry → Json.Fields → σ → List Binding × Registry × σ
  | r, [], s => ([], r, s)
  | r, (name, definition) :: rest, s =>
    if isEntityName name then
      let (bindings, r, s) := r.addDefinition b name definition s
      let (others, r, s) := addDefinitions r rest s
      (bindings ++ others, r, s)
    else addDefinitions r rest s

/-- What is recorded for a document without definitions. -/
def missingDefinitions : Diagnostic where
  kind := .missingDefinitions
  message := "document has no definitions mapping"
  descriptor := .null

/-- Registers the definitions of a document, unless that happened before. Returns all bindings. -/
def register (r : Registry) (document : Json) (s : σ) : List Binding × Registry × σ :=
  if r.isCompiled then ([], r, s)
  else
    -- a document without definitions makes a model too, an empty one
    let r := { r with state := .compiled }
    match Entity.fieldsAt? document "definitions" with
    | some definitions => r.addDefinitions b definitions s
    | none => ([], { r with diagnostics := r.diagnostics ++ [missingDefinitions] }, s)

/-- Wires one binding, if both its entities are registered. -/
def addBinding (r : Registry) (binding : Binding) (s : σ) : Registry × σ :=
  if binding.isBindable then
    match r.handle? binding.target, r.handle? binding.source with
    | some target, some source =>
      ({ r with relationships := r.relationships ++ binding.steps.map binding.relationship },
        binding.steps.foldl (fun s step => b.relate s target source step.association) s)
    | _, _ => (r, s)
  else (r, s)

def addBindings : Registry → List Binding → σ → Registry × σ
  | r, [], s => (r, s)
  | r, binding :: rest, s =>
    let (r, s) := r.addBinding b binding s
    addBindings r rest s

/-- Wires bindings, unless that happened before. -/
def bind (r : Registry) (bindings : List Binding) (s : σ) : Registry × σ :=
  if r.bound then (r, s) else addBindings b { r with bound := true } bindings s

/-- Asks the backend to create its structures. -/
def synchronize (options : InitOptions) (s : σ) : Except BackendError Unit × σ :=
  b.synchronize s options.syncOptions

/-- Registers, binds and synchronizes, unless there is a model already. The model stays when the
synchronization fails. -/
def initializeWith (r : Registry) (document : Json) (options : InitOptions) (s : σ) :
    Except BackendError InitOutcome × Registry × σ :=
  if r.isCompiled then (.ok .alreadyInitialized, r, s)
  else
    let (bindings, r, s) := r.register b document s
    let (r, s) := r.bind b bindings s
    let (result, s) := synchronize b options s
    (result.map fun _ => .initialized, r, s)

def toJson (r : Registry) : Json :=
  .object <|
    [("state", .string r.state.name), ("entities", .array (r.entities.map Entity.toJson)),
      ("relationships", .array (r.relationships.map Relationship.toJson))] ++
    (if r.diagnostics.isEmpty then []
      else [("diagnostics", .array (r.diagnostics.map Diagnostic.toJson))])

end Registry

end EntityModel
