import EntityModel.Backend.Recorder
import EntityModel.Proofs.Registry.History

/-!
# Recovering from a failed synchronization

Synchronizing is the last phase of an initialization and the only one that can fail. By then the
model is complete and the backend has been told everything, so what is left to a caller is to
synchronize again: however often that takes, the registry stays as the initialization left it and
the backend is asked for nothing but the synchronizations (`initializeWith_recovers`).
-/

namespace EntityModel

/-- What the synchronizations of a backend come to, one after another. -/
def Backend.synchronizations {σ : Type} (b : Backend σ) :
    List SyncOptions → σ → List (Except BackendError Unit)
  | [], _ => []
  | options :: rest, s =>
    let (result, s) := b.synchronize s options
    result :: b.synchronizations rest s

theorem Backend.declareAll_congr {σ : Type} {b c : Backend σ} (h : c.declare = b.declare)
    (entities : List Entity) (s : σ) : c.declareAll entities s = b.declareAll entities s := by
  induction entities generalizing s with
  | nil => rfl
  | cons e rest ih => simp only [declareAll, h, ih]

theorem Backend.length_synchronizations {σ : Type} (b : Backend σ) (options : List SyncOptions)
    (s : σ) : (b.synchronizations options s).length = options.length := by
  induction options generalizing s with
  | nil => rfl
  | cons first rest ih => exact congrArg (· + 1) (ih _)

theorem Backend.forall₂_declareAll {σ : Type} (b : Backend σ) (entities : List Entity) (s : σ) :
    List.Forall₂ (fun e table => table.name = e.name ∧ table.columns = e.columns) entities
      (b.declareAll entities s).1 := by
  induction entities generalizing s with
  | nil => exact .nil
  | cons e rest ih => exact .cons ⟨rfl, rfl⟩ (ih _)

/-- The error that a call returned. -/
def Answer.failure? : Answer → Option BackendError
  | .initialized (.error e) => some e
  | .synchronized (.error e) => some e
  | _ => none

theorem Answer.failure?_initialized (result : Except BackendError Unit) :
    (initialized (result.map fun _ => .initialized)).failure? =
      (synchronized result).failure? := by
  cases result <;> rfl

/-- Failures and the success that ends them. -/
def BackendError.recovery (failures : List BackendError) : List (Except BackendError Unit) :=
  failures.map .error ++ [.ok ()]

theorem Answer.map_failure?_recovery (failures : List BackendError) :
    (BackendError.recovery failures).map (fun result => (synchronized result).failure?) =
      failures.map some ++ [none] := by
  rw [BackendError.recovery, List.map_append, List.map_map]
  rfl

namespace Registry

variable {σ : Type} (b : Backend σ)

/-! ## Synchronizing again -/

section

variable (retries : List InitOptions) (r : Registry) (s : σ)

theorem run_synchronize :
    (run (retries.map fun options => ⟨b, .synchronize options⟩) r s).1 = r := by
  induction retries generalizing s with
  | nil => rfl
  | cons options rest ih =>
    rw [List.map_cons, run_cons]
    exact ih _

theorem failures_synchronize :
    (history (retries.map fun options => ⟨b, .synchronize options⟩) r s).map
        (fun step => step.answer.failure?) =
      (b.synchronizations (retries.map InitOptions.syncOptions) s).map
        fun result => (Answer.synchronized result).failure? := by
  induction retries generalizing s with
  | nil => rfl
  | cons options rest ih =>
    rw [List.map_cons, history_cons, List.map_cons, step_synchronize]
    exact congrArg _ (ih _)

theorem calls_synchronize :
    (history (retries.map fun options => ⟨b, .synchronize options⟩) r s).flatMap Step.calls =
      List.zipWith .synchronize (retries.map InitOptions.syncOptions)
        (b.synchronizations (retries.map InitOptions.syncOptions) s) := by
  induction retries generalizing s with
  | nil => rfl
  | cons options rest ih =>
    rw [List.map_cons, history_cons, List.flatMap_cons, step_synchronize]
    exact congrArg _ (ih _)

end

/-! ## The first initialization -/

/-- The associations that the initialization of a new registry makes, with the handles of tables. -/
def linksOf (document : Json) (tables : List Table) : List RecordedAssociation :=
  document.relationships.filterMap (Handles.link? (Table.handles tables))

/-- What initializing a new registry asks of a backend depends on nothing but the handles that
the backend returns. -/
theorem initializeWith_of_declare_eq {b c : Backend σ} (h : c.declare = b.declare) (document : Json)
    (options : InitOptions) (s : σ) :
    let tables := (b.declareAll document.entities s).1
    (initializeWith c {} document options s).2.1 =
        ofDocument document (Table.handles tables) document.relationships ∧
      ∃ result, (initializeWith c {} document options s).1 = result.map (fun _ => .initialized) ∧
        initializeWith c.logged {} document options (s, []) =
          ((initializeWith c {} document options s).1, (initializeWith c {} document options s).2.1,
            (initializeWith c {} document options s).2.2,
            tables.map .declare ++ (linksOf document tables).map .relate ++
              [.synchronize ⟨options.autosync⟩ result]) := by
  have hdeclared := Backend.declareAll_congr h document.entities s
  dsimp only
  rw [← hdeclared]
  have hnew := initializeWith_new c false document options s
  refine ⟨congrArg (·.2.1) hnew, _, congrArg Prod.fst hnew, ?_⟩
  exact initializeWith_logged c false document options s []

/-- A run that initializes a new registry and synchronizes it again, in the order of its calls. -/
def initializeAgain (document : Json) (options : InitOptions) (retries : List InitOptions) :
    List (Call σ) :=
  ⟨b, .initializeWith document options⟩ ::
    retries.map fun options => ⟨b, .synchronize options⟩

/-- **Recovering from failed synchronizations**: an initialization declares its entities and makes
their associations, in order, and then synchronizes once, which is all that it can fail with. If it
takes some failures more until a synchronization succeeds, the registry and the log are those of an
initialization that succeeded at once, but for the synchronizations. -/
theorem initializeWith_recovers (document : Json) (options : InitOptions) (s : σ) :
    let made := initializeWith b {} document options s
    ∃ tables links result,
      List.Forall₂ (fun e table => table.name = e.name ∧ table.columns = e.columns)
        made.2.1.entities tables ∧
      List.Forall₂ (fun rel link => Handles.link? (Table.handles tables) rel = some link)
        made.2.1.relationships links ∧
      made.1 = result.map (fun _ => .initialized) ∧
      initializeWith b.logged {} document options (s, []) =
        (made.1, made.2.1, made.2.2,
          tables.map .declare ++ links.map .relate ++
            [.synchronize ⟨options.autosync⟩ result]) ∧
      ∀ (retries : List InitOptions) (failures : List BackendError),
        result :: b.synchronizations (retries.map InitOptions.syncOptions) made.2.2 =
            BackendError.recovery failures →
          let again := initializeAgain b document options retries
          retries.length = failures.length ∧
          (history again {} s).map (fun step => step.answer.failure?) =
            failures.map some ++ [none] ∧
          (history again {} s).flatMap Step.calls =
            tables.map .declare ++ links.map .relate ++
              List.zipWith .synchronize ((options :: retries).map InitOptions.syncOptions)
                (BackendError.recovery failures) ∧
          ∀ (smooth : Backend σ) (others : InitOptions), smooth.declare = b.declare →
            (initializeWith smooth {} document others s).1 = .ok .initialized →
              (run again {} s).1 = (initializeWith smooth {} document others s).2.1 ∧
              (initializeWith smooth.logged {} document others (s, [])).2.2.2 =
                tables.map .declare ++ links.map .relate ++
                  [.synchronize others.syncOptions (.ok ())] := by
  intro made
  let tables := (b.declareAll document.entities s).1
  let links := linksOf document tables
  obtain ⟨hregistry, result, hresult, hlogged⟩ :=
    initializeWith_of_declare_eq (rfl : b.declare = b.declare) document options s
  refine ⟨tables, links, result, ?_, ?_, hresult, hlogged, ?_⟩
  · rw [hregistry]
    exact b.forall₂_declareAll document.entities s
  · rw [hregistry]
    exact forall₂_relationships b document s
  intro retries failures hresults again
  have hhistory : history again {} s =
      { answer := .initialized made.1
        registry := made.2.1
        calls := (initializeWith b.logged {} document options (s, [])).2.2.2 } ::
      history (retries.map fun options => ⟨b, .synchronize options⟩) made.2.1 made.2.2 := rfl
  have hrun : (run again {} s).1 = made.2.1 := run_synchronize b retries made.2.1 made.2.2
  refine ⟨?_, ?_, ?_, ?_⟩
  · have hlength := congrArg List.length hresults
    simpa [Backend.length_synchronizations, BackendError.recovery] using hlength
  · rw [hhistory, List.map_cons, failures_synchronize, hresult, Answer.failure?_initialized,
      ← Answer.map_failure?_recovery, ← hresults, List.map_cons]
  · rw [hhistory, List.flatMap_cons, calls_synchronize, hlogged, ← hresults, List.map_cons,
      List.zipWith_cons_cons, List.append_assoc]
    rfl
  · intro smooth others hdeclare hsmooth
    obtain ⟨hregistry', result', hresult', hlogged'⟩ :=
      initializeWith_of_declare_eq hdeclare document others s
    rw [hsmooth] at hresult'
    cases result' with
    | error e => cases hresult'
    | ok _ => exact ⟨hrun.trans (hregistry.trans hregistry'.symm), congrArg (·.2.2.2) hlogged'⟩

/-- The backend that refuses to synchronize, once with each of some errors, before it does. -/
def refusing : Backend (σ × List BackendError) where
  declare s name columns :=
    let (handle, state) := b.declare s.1 name columns
    (handle, state, s.2)
  relate s owner target association := (b.relate s.1 owner target association, s.2)
  synchronize s options :=
    match s.2 with
    | e :: rest => (.error e, s.1, rest)
    | [] =>
      let (result, state) := b.synchronize s.1 options
      (result, state, [])

/-- A store that refuses twice. -/
theorem initializeWith_recovers_refused :
    let failures : List BackendError := [.sync "database is locked", .backend "timeout"]
    let b := refusing Store.backend
    let smooth : Backend (Store × List BackendError) :=
      { b with synchronize := fun s _ => (.ok (), s) }
    let document := commentDocument "#/definitions/Post"
    let retries : List InitOptions := [{}, { autosync := false }]
    let made := initializeWith b {} document {} ({}, failures)
    let again := initializeAgain b document {} retries
    let result : Except BackendError Unit := .error (.sync "database is locked")
    made.1 = result.map (fun _ => .initialized) ∧
      result :: b.synchronizations (retries.map InitOptions.syncOptions) made.2.2 =
        BackendError.recovery failures ∧
      smooth.declare = b.declare ∧
      (initializeWith smooth {} document {} ({}, failures)).1 = .ok .initialized ∧
      (history again {} ({}, failures)).map (fun step => step.answer.failure?) =
        failures.map some ++ [none] ∧
      (history again {} ({}, failures)).map (fun step => step.calls.length) = [5, 1, 1] ∧
      (run again {} ({}, failures)).1 =
        (initializeWith smooth {} document {} ({}, failures)).2.1 := by
  intro failures b smooth document retries made again result
  obtain ⟨tables, links, result', -, -, hresult', -, hrecovers⟩ :=
    initializeWith_recovers b document {} ({}, failures)
  have hmade : made.1 = result.map (fun _ => .initialized) := rfl
  have hresults : result :: b.synchronizations (retries.map InitOptions.syncOptions) made.2.2 =
      BackendError.recovery failures := rfl
  have hsmooth : (initializeWith smooth {} document {} ({}, failures)).1 = .ok .initialized := rfl
  -- the synchronization that the theorem speaks of is this one
  have hsame : result' = result := by
    cases result' with
    | ok _ => cases hmade.symm.trans hresult'
    | error e =>
      cases hmade.symm.trans hresult'
      rfl
  subst hsame
  obtain ⟨-, hanswers, -, halike⟩ := hrecovers retries failures hresults
  exact ⟨hmade, hresults, rfl, hsmooth, hanswers, rfl, (halike smooth {} rfl hsmooth).1⟩

end Registry

end EntityModel
