import EntityModel.Backend.Recorder
import EntityModel.Proofs.Registry.History

/-!
# Frozen registries

A registry that has registered a document and has bound is done: two guards, one for each of the
two phases, turn every later call away (`Registry.Frozen`). Only synchronizing still reaches a
backend, and it leaves the registry as it is. The first initialization sets both guards, whether
its own synchronization succeeds or not, so no call after it changes anything
(`history_after_initializeWith`).
-/

namespace EntityModel.Registry

variable {σ : Type} {r : Registry}

/-- Both phases that add to a registry are over. -/
structure Frozen (r : Registry) : Prop where
  compiled : r.isCompiled = true
  bound : r.bound = true

/-- A step that leaves the registry as it is and that only reaches a backend to synchronize it. -/
inductive Inert (r : Registry) : Operation → Step → Prop
  | initializeWith (document : Json) (options : InitOptions) :
      Inert r (.initializeWith document options)
        { answer := .initialized (.ok .alreadyInitialized), registry := r, calls := [] }
  | register (document : Json) :
      Inert r (.register document) { answer := .registered [], registry := r, calls := [] }
  | bind (bindings : List Binding) :
      Inert r (.bind bindings) { answer := .bound, registry := r, calls := [] }
  | synchronize (options : InitOptions) (result : Except BackendError Unit) :
      Inert r (.synchronize options)
        { answer := .synchronized result
          registry := r
          calls := [.synchronize options.syncOptions result] }

theorem Inert.registry_eq {operation : Operation} {step : Step} (h : r.Inert operation step) :
    step.registry = r := by
  cases h <;> rfl

/-! ## Freezing -/

/-- The first initialization freezes its registry, bound before or not. -/
theorem frozen_initializeWith (hidle : r.isCompiled = false) (b : Backend σ) (document : Json)
    (options : InitOptions) (s : σ) : (r.initializeWith b document options s).2.1.Frozen := by
  rw [initializeWith_of_idle b r hidle]
  dsimp only
  exact ⟨(isCompiled_bind b _ _ _).trans (isCompiled_register b r document s), bound_bind b _ _ _⟩

namespace Frozen

theorem inert_step (h : r.Frozen) (call : Call σ) (s : σ) :
    r.Inert call.operation (r.step call s) := by
  obtain ⟨b, operation⟩ := call
  cases operation with
  | initializeWith document options =>
    rw [step_initializeWith_of_compiled b r h.compiled]
    exact .initializeWith document options
  | register document =>
    rw [step_register, register_of_compiled b r h.compiled,
      declared_of_compiled b r h.compiled]
    exact .register document
  | bind bindings =>
    rw [step_bind, bind_of_bound b r h.bound, linked_of_bound r h.bound]
    exact .bind bindings
  | synchronize options =>
    rw [step_synchronize]
    exact .synchronize options _

theorem perform_eq (h : r.Frozen) (call : Call σ) (s : σ) : (r.perform call s).2.1 = r :=
  (h.inert_step call s).registry_eq

theorem run_eq (h : r.Frozen) (calls : List (Call σ)) (s : σ) : (run calls r s).1 = r := by
  induction calls generalizing s with
  | nil => rfl
  | cons call rest ih =>
    rw [run_cons, h.perform_eq call s]
    exact ih _

theorem inert_history (h : r.Frozen) (calls : List (Call σ)) (s : σ) :
    List.Forall₂ (fun call step => r.Inert call.operation step) calls (history calls r s) := by
  induction calls generalizing s with
  | nil => exact .nil
  | cons call rest ih =>
    have hstep := h.inert_step call s
    rw [history_cons, hstep.registry_eq]
    exact .cons hstep (ih _)

end Frozen

/-! ## After the first initialization -/

/-- **The first initialization is the last call that changes a registry**, whatever became of its
synchronization: whichever calls come later, with whatever documents, bindings and backends, the
registry stays as it was left, initializing and registering come to nothing, and the only calls
that reach a backend are the synchronizations that are asked for, one each. -/
theorem history_after_initializeWith {τ : Type} (hidle : r.state = .idle) (b : Backend σ)
    (document : Json) (options : InitOptions) (s : σ) (calls : List (Call τ)) (t : τ) :
    let made := (r.initializeWith b document options s).2.1
    made.state = .compiled ∧ (run calls made t).1 = made ∧
      List.Forall₂ (fun call step => made.Inert call.operation step) calls
        (history calls made t) := by
  have hcompiled : r.isCompiled = false := by
    rw [isCompiled, hidle]
    rfl
  have hfrozen := frozen_initializeWith hcompiled b document options s
  exact ⟨beq_iff_eq.1 hfrozen.compiled, hfrozen.run_eq calls t, hfrozen.inert_history calls t⟩

/-- A registry whose first synchronization failed meets another document, forged bindings and a
second attempt to synchronize. -/
theorem history_after_failed_initializeWith :
    let failing : Store := { failure := some "disk full" }
    let made := initializeWith Store.backend {} (commentDocument "#/definitions/Post") {} failing
    let calls : List (Call Recorder) :=
      [⟨Recorder.backend, .register (commentDocument "Post")⟩,
        ⟨Recorder.backend, .bind [⟨"Post", "Comment", "forged", .array⟩]⟩,
        ⟨Recorder.backend, .synchronize {}⟩,
        ⟨Recorder.backend, .initializeWith (commentDocument "Post") {}⟩]
    ({} : Registry).state = .idle ∧ made.1 = .error (.sync "disk full") ∧
      made.2.1.relationships.length = 2 ∧ (run calls made.2.1 {}).1 = made.2.1 ∧
      List.Forall₂ (fun call step => made.2.1.Inert call.operation step) calls
        (history calls made.2.1 {}) := by
  intro failing made calls
  have hidle : ({} : Registry).state = .idle := rfl
  have hall := history_after_initializeWith hidle Store.backend
    (commentDocument "#/definitions/Post") {} failing calls {}
  exact ⟨hidle, rfl, by decide, hall.2.1, hall.2.2⟩

end EntityModel.Registry
