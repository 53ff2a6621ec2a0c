import EntityModel.Proofs.Registry.Runs

/-!
# The history of a run

A run leaves a registry and the state of its backends. Its history also tells, for each call, what
was answered, what the registry was then, and which calls reached the backend (`history`). It is no
second account of the run: the same run with backends that keep their calls ends the same way, and
what they have kept is what the history tells, in order (`run_logged`).

What a step can be is said once, in one equation for each operation (`step_register` and the ones
after it); what holds of histories follows from these.
-/

namespace EntityModel

/-- The call with a backend that also keeps what it is asked. -/
def Call.logged {σ : Type} (call : Call σ) : Call (σ × List BackendCall) :=
  ⟨call.backend.logged, call.operation⟩

/-- What a call of a registry came to. -/
structure Step where
  answer : Answer
  /-- The registry after the call. -/
  registry : Registry
  /-- The calls that reached the backend, in order. -/
  calls : List BackendCall

namespace Registry

variable {σ : Type}

def step (r : Registry) (call : Call σ) (s : σ) : Step where
  answer := (r.perform call s).1
  registry := (r.perform call s).2.1
  calls := (r.perform call.logged (s, [])).2.2.2

def history : List (Call σ) → Registry → σ → List Step
  | [], _, _ => []
  | call :: rest, r, s =>
    r.step call s :: history rest (r.perform call s).2.1 (r.perform call s).2.2

theorem history_cons (call : Call σ) (rest : List (Call σ)) (r : Registry) (s : σ) :
    history (call :: rest) r s =
      r.step call s :: history rest (r.step call s).registry (r.perform call s).2.2 := rfl

/-! ## The calls of each phase -/

section

variable (b : Backend σ) (r : Registry)

/-- The tables that registering a document declares. -/
def declared (document : Json) (s : σ) : List Table :=
  if r.isCompiled then [] else (b.declareAll document.entities s).1

/-- The associations that binding makes. -/
def linked (bindings : List Binding) : List RecordedAssociation :=
  if r.bound then []
  else (Handles.wired r.handles bindings).filterMap (Handles.link? r.handles)

theorem declared_of_compiled (h : r.isCompiled = true) (document : Json) (s : σ) :
    r.declared b document s = [] := by
  rw [declared, h, if_pos rfl]

theorem declared_of_idle (h : r.isCompiled = false) (document : Json) (s : σ) :
    r.declared b document s = (b.declareAll document.entities s).1 := by
  rw [declared, h, if_neg Bool.false_ne_true]

theorem linked_of_bound (h : r.bound = true) (bindings : List Binding) :
    r.linked bindings = [] := by
  rw [linked, h, if_pos rfl]

theorem linked_of_unbound (h : r.bound = false) (bindings : List Binding) :
    r.linked bindings =
      (Handles.wired r.handles bindings).filterMap (Handles.link? r.handles) := by
  rw [linked, h, if_neg Bool.false_ne_true]

theorem register_logged (document : Json) (s : σ) (log : List BackendCall) :
    r.register b.logged document (s, log) =
      ((r.register b document s).1, (r.register b document s).2.1, (r.register b document s).2.2,
        log ++ (r.declared b document s).map .declare) := by
  cases hcompiled : r.isCompiled with
  | true =>
    rw [register_of_compiled _ r hcompiled, register_of_compiled _ r hcompiled,
      declared_of_compiled b r hcompiled, List.map_nil, List.append_nil]
  | false =>
    rw [register_of_idle _ r hcompiled, register_of_idle _ r hcompiled,
      declared_of_idle b r hcompiled, Backend.declareAll_logged]

theorem bind_logged (bindings : List Binding) (s : σ) (log : List BackendCall) :
    r.bind b.logged bindings (s, log) =
      ((r.bind b bindings s).1, (r.bind b bindings s).2,
        log ++ (r.linked bindings).map .relate) := by
  cases hbound : r.bound with
  | true =>
    rw [bind_of_bound _ r hbound, bind_of_bound _ r hbound, linked_of_bound r hbound,
      List.map_nil, List.append_nil]
  | false =>
    rw [bind_of_unbound _ r hbound, bind_of_unbound _ r hbound, linked_of_unbound r hbound,
      Backend.relateAll_logged]

end

/-! ## The steps of each operation -/

section

variable (b : Backend σ) (r : Registry)

theorem step_register (document : Json) (s : σ) :
    r.step ⟨b, .register document⟩ s =
      { answer := .registered (r.register b document s).1
        registry := (r.register b document s).2.1
        calls := (r.declared b document s).map .declare } := by
  simp only [step, perform, Call.logged, register_logged, List.nil_append]

theorem step_bind (bindings : List Binding) (s : σ) :
    r.step ⟨b, .bind bindings⟩ s =
      { answer := .bound
        registry := (r.bind b bindings s).1
        calls := (r.linked bindings).map .relate } := by
  simp only [step, perform, Call.logged, bind_logged, List.nil_append]

theorem step_synchronize (options : InitOptions) (s : σ) :
    r.step ⟨b, .synchronize options⟩ s =
      { answer := .synchronized (b.synchronize s options.syncOptions).1
        registry := r
        calls := [.synchronize options.syncOptions (b.synchronize s options.syncOptions).1] } := rfl

theorem step_initializeWith_of_compiled (h : r.isCompiled = true) (document : Json)
    (options : InitOptions) (s : σ) :
    r.step ⟨b, .initializeWith document options⟩ s =
      { answer := .initialized (.ok .alreadyInitialized), registry := r, calls := [] } := by
  simp only [step, perform, Call.logged, initializeWith_of_compiled _ r h]

/-- The step of an initialization is that of registering, that of binding what was registered and
that of synchronizing, in a row. -/
theorem step_initializeWith_of_idle (h : r.isCompiled = false) (document : Json)
    (options : InitOptions) (s : σ) :
    r.step ⟨b, .initializeWith document options⟩ s =
      (let registered := r.register b document s
       let bound := registered.2.1.bind b registered.1 registered.2.2
       let result := (b.synchronize bound.2 options.syncOptions).1
       { answer := .initialized (result.map fun _ => .initialized)
         registry := bound.1
         calls :=
           (r.declared b document s).map .declare ++
             (registered.2.1.linked registered.1).map .relate ++
             [.synchronize options.syncOptions result] }) := by
  simp only [step, perform, Call.logged, initializeWith_of_idle _ r h, register_logged, bind_logged,
    List.nil_append]
  rfl

end

/-! ## Runs whose backends keep their calls -/

theorem perform_logged (r : Registry) (call : Call σ) (s : σ) (log : List BackendCall) :
    r.perform call.logged (s, log) =
      ((r.step call s).answer, (r.step call s).registry, (r.perform call s).2.2,
        log ++ (r.step call s).calls) := by
  obtain ⟨b, operation⟩ := call
  cases operation with
  | initializeWith document options =>
    cases hcompiled : r.isCompiled with
    | true =>
      rw [step_initializeWith_of_compiled b r hcompiled]
      simp only [perform, Call.logged, initializeWith_of_compiled _ r hcompiled, List.append_nil]
    | false =>
      rw [step_initializeWith_of_idle b r hcompiled]
      simp only [perform, Call.logged, initializeWith_of_idle _ r hcompiled, register_logged,
        bind_logged]
      simp only [Backend.logged, List.append_assoc]
  | register document =>
    rw [step_register]
    simp only [perform, Call.logged, register_logged]
  | bind bindings =>
    rw [step_bind]
    simp only [perform, Call.logged, bind_logged]
  | synchronize options => rfl

/-- A run with backends that keep their calls is the run itself, and its log grows by the calls of
the history. -/
theorem run_logged (calls : List (Call σ)) (r : Registry) (s : σ) (log : List BackendCall) :
    run (calls.map Call.logged) r (s, log) =
      ((run calls r s).1, (run calls r s).2, log ++ (history calls r s).flatMap Step.calls) := by
  induction calls generalizing r s log with
  | nil => simp [run, history]
  | cons call rest ih =>
    rw [List.map_cons, run_cons, run_cons, history_cons, perform_logged, List.flatMap_cons,
      ← List.append_assoc]
    exact ih _ _ _

end Registry

end EntityModel
