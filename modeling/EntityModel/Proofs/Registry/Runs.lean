import EntityModel.Proofs.Registry.Wiring

/-!
# Runs of a registry

The phases of a registry are open to its callers, in any order and each with a backend of its own
choice: a run is a list of calls, and `run` carries them out.

Before there is a model, binding wires nothing, but it is the one time that binding happens
(`run_early`). A registry that was bound so early gets its entities and diagnostics all the same
when it is initialized, and no relationships (`initializeWith_after_early`).
-/

namespace EntityModel

/-- What a caller asks of a registry. -/
inductive Operation where
  | initializeWith (document : Json) (options : InitOptions)
  | register (document : Json)
  | bind (bindings : List Binding)
  | synchronize (options : InitOptions)

/-- What a registry returns. -/
inductive Answer where
  | initialized (result : Except BackendError InitOutcome)
  | registered (bindings : List Binding)
  | bound
  | synchronized (result : Except BackendError Unit)

namespace Operation

/-- The document that an operation brings; binding and synchronizing bring none. -/
def document? : Operation → Option Json
  | .initializeWith document _ => some document
  | .register document => some document
  | .bind _ => none
  | .synchronize _ => none

def isBind : Operation → Bool
  | .bind _ => true
  | _ => false

end Operation

/-- A call of a registry: the operation and the backend it is made with. The states of all
backends of a run are one state, of which each backend minds its own part. -/
structure Call (σ : Type) where
  backend : Backend σ
  operation : Operation

namespace Registry

variable {σ : Type}

def perform (r : Registry) (call : Call σ) (s : σ) : Answer × Registry × σ :=
  match call.operation with
  | .initializeWith document options =>
    let (result, r, s) := r.initializeWith call.backend document options s
    (.initialized result, r, s)
  | .register document =>
    let (bindings, r, s) := r.register call.backend document s
    (.registered bindings, r, s)
  | .bind bindings =>
    let (r, s) := r.bind call.backend bindings s
    (.bound, r, s)
  | .synchronize options =>
    let (result, s) := synchronize call.backend options s
    (.synchronized result, r, s)

def run : List (Call σ) → Registry → σ → Registry × σ
  | [], r, s => (r, s)
  | call :: rest, r, s =>
    let (_, r, s) := r.perform call s
    run rest r s

theorem run_cons (call : Call σ) (rest : List (Call σ)) (r : Registry) (s : σ) :
    run (call :: rest) r s = run rest (r.perform call s).2.1 (r.perform call s).2.2 := rfl

/-! ## What runs keep -/

section

variable {P : Registry → σ → Prop}

/-- What the three phases keep, every call keeps. -/
theorem perform_keeps {call : Call σ}
    (hregister : ∀ document ∈ call.operation.document?, ∀ r s, P r s →
      P (r.register call.backend document s).2.1 (r.register call.backend document s).2.2)
    (hbind : ∀ bindings r s, P r s →
      P (r.bind call.backend bindings s).1 (r.bind call.backend bindings s).2)
    (hsynchronize : ∀ options r s, P r s → P r (synchronize call.backend options s).2)
    {r : Registry} {s : σ} (h : P r s) : P (r.perform call s).2.1 (r.perform call s).2.2 := by
  obtain ⟨b, operation⟩ := call
  cases operation with
  | initializeWith document options =>
    cases hcompiled : r.isCompiled with
    | true =>
      simp only [perform, initializeWith_of_compiled b r hcompiled]
      exact h
    | false =>
      simp only [perform, initializeWith_of_idle b r hcompiled]
      have hregistered := hregister document rfl r s h
      exact hsynchronize options _ _ (hbind _ _ _ hregistered)
  | register document => exact hregister document rfl r s h
  | bind bindings => exact hbind bindings r s h
  | synchronize options => exact hsynchronize options r s h

theorem run_keeps {calls : List (Call σ)}
    (hperform : ∀ call ∈ calls, ∀ r s, P r s →
      P (r.perform call s).2.1 (r.perform call s).2.2)
    {r : Registry} {s : σ} (h : P r s) : P (run calls r s).1 (run calls r s).2 := by
  induction calls generalizing r s with
  | nil => exact h
  | cons call rest ih =>
    rw [run_cons]
    have hcall := hperform call List.mem_cons_self r s h
    exact ih (fun other hother => hperform other (List.mem_cons_of_mem _ hother)) hcall

end

/-! ## Before there is a model -/

/-- A call without a document leaves a registry without a model as it is, but that it may be
bound. -/
theorem perform_early (bound : Bool) {call : Call σ} (h : call.operation.document? = none) (s : σ) :
    (perform { bound } call s).2.1 = { bound := bound || call.operation.isBind } := by
  obtain ⟨b, operation⟩ := call
  cases operation with
  | initializeWith document options => cases h
  | register document => cases h
  | bind bindings =>
    cases bound with
    | true =>
      have hbind : bind b { bound := true } bindings s = ({ bound := true }, s) :=
        bind_of_bound b _ rfl bindings s
      simp only [perform, hbind, Bool.true_or]
    | false =>
      have hbind := bind_of_unbound b {} rfl bindings s
      simp only [perform, hbind, Handles.wired_nil, List.append_nil]
      rfl
  | synchronize options => simp [perform, Operation.isBind]

theorem run_early (bound : Bool) {calls : List (Call σ)}
    (h : ∀ call ∈ calls, call.operation.document? = none) (s : σ) :
    (run calls { bound } s).1 = { bound := bound || calls.any (·.operation.isBind) } := by
  induction calls generalizing bound s with
  | nil => simp [run]
  | cons call rest ih =>
    have hrest : ∀ call ∈ rest, call.operation.document? = none :=
      fun other hother => h other (List.mem_cons_of_mem _ hother)
    rw [run_cons, perform_early bound (h call List.mem_cons_self), ih _ hrest, List.any_cons,
      Bool.or_assoc]

/-- **What calls before the first initialization change**: not the entities and not the
diagnostics, whatever backends are used. The relationships are those of a registry without such
calls if none of the calls was binding, and else there are none. -/
theorem initializeWith_after_early {τ : Type} {calls : List (Call σ)}
    (h : ∀ call ∈ calls, call.operation.document? = none) (b : Backend σ) (c : Backend τ)
    (document : Json) (options freshOptions : InitOptions) (s : σ) (t : τ) :
    let early := run calls {} s
    let late := (initializeWith b early.1 document options early.2).2.1
    let fresh := (initializeWith c {} document freshOptions t).2.1
    early.1.state = .idle ∧ late.state = fresh.state ∧ late.entities = fresh.entities ∧
      late.diagnostics = fresh.diagnostics ∧
      late.relationships =
        if calls.any (·.operation.isBind) then [] else fresh.relationships := by
  have hearly := run_early false h s
  dsimp only
  rw [hearly, initializeWith_new, initializeWith_new]
  refine ⟨rfl, rfl, rfl, rfl, ?_⟩
  rw [Bool.false_or]
  rfl

/-- A registry that is bound and synchronized before it has a model. -/
theorem initializeWith_after_bind :
    let calls : List (Call Store) :=
      [⟨Store.backend, .synchronize {}⟩, ⟨Store.backend, .bind []⟩]
    let early := run calls {} {}
    (∀ call ∈ calls, call.operation.document? = none) ∧
      (initializeWith Store.backend early.1 (commentDocument "#/definitions/Post") {}
        early.2).2.1.relationships = [] := by
  intro calls early
  have h : ∀ call ∈ calls, call.operation.document? = none := by
    intro call hcall
    rcases List.mem_pair.1 hcall with rfl | rfl
    · rfl
    · rfl
  have hall := initializeWith_after_early h Store.backend Store.backend
    (commentDocument "#/definitions/Post") {} {} {} {}
  exact ⟨h, hall.2.2.2.2⟩

/-- Binding too early loses the relationships of the document that comes after. -/
theorem early_bind_loses_relationships :
    let early := (perform {} ⟨Store.backend, .bind []⟩ {}).2
    let document := commentDocument "#/definitions/Post"
    early.1.state = .idle ∧
      (initializeWith Store.backend early.1 document {} early.2).2.1.relationships = [] ∧
      (initializeWith Store.backend {} document {} {}).2.1.relationships =
        Binding.pair ⟨"Comment", "Post", "post", .direct⟩ := by
  decide

end Registry

end EntityModel
