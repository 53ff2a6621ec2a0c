import EntityModel.Proofs.Registry.History

/-!
# Independence of the backend

A backend decides which handles it returns and whether it synchronizes. Neither shows in a model:
two runs of the same operations with different backends agree after every step in all but the
handles themselves and the outcomes of synchronizing (`history_agrees`), however the handles may
collide. A registry looks its handles up by name and asks no more of them than whether they are
there.
-/

namespace EntityModel

/-- Backend calls that ask for the same. -/
inductive BackendCall.Agree : BackendCall → BackendCall → Prop
  | declare (handle handle' : Handle) (name : String) (columns : ColumnMap) :
      Agree (.declare ⟨handle, name, columns⟩) (.declare ⟨handle', name, columns⟩)
  | relate (owner owner' target target' : Handle) (association : Association) :
      Agree (.relate ⟨owner, target, association⟩) (.relate ⟨owner', target', association⟩)
  | synchronize (options : SyncOptions) (result result' : Except BackendError Unit) :
      Agree (.synchronize options result) (.synchronize options result')

/-- Answers that are the same but for the outcome of synchronizing. -/
inductive Answer.Agree : Answer → Answer → Prop
  | alreadyInitialized :
      Agree (.initialized (.ok .alreadyInitialized)) (.initialized (.ok .alreadyInitialized))
  | initialized (result result' : Except BackendError Unit) :
      Agree (.initialized (result.map fun _ => .initialized))
        (.initialized (result'.map fun _ => .initialized))
  | registered (bindings : List Binding) : Agree (.registered bindings) (.registered bindings)
  | bound : Agree .bound .bound
  | synchronized (result result' : Except BackendError Unit) :
      Agree (.synchronized result) (.synchronized result')

/-- Registries that are the same but for the handles of their entities. -/
structure Registry.Agree (r r' : Registry) : Prop where
  state : r.state = r'.state
  entities : r.entities = r'.entities
  handles : ∀ name, (r.handle? name).isSome = (r'.handle? name).isSome
  relationships : r.relationships = r'.relationships
  bound : r.bound = r'.bound
  diagnostics : r.diagnostics = r'.diagnostics

/-- Steps that are the same but for handles and the outcome of synchronizing. -/
structure Step.Agree (step step' : Step) : Prop where
  answer : step.answer.Agree step'.answer
  registry : step.registry.Agree step'.registry
  calls : List.Forall₂ BackendCall.Agree step.calls step'.calls

/-! ## What depends on handles -/

theorem Backend.declareAll_agree {σ τ : Type} (b : Backend σ) (c : Backend τ)
    (entities : List Entity) (s : σ) (t : τ) :
    List.Forall₂ BackendCall.Agree ((b.declareAll entities s).1.map .declare)
      ((c.declareAll entities t).1.map .declare) := by
  induction entities generalizing s t with
  | nil => exact .nil
  | cons e rest ih =>
    simp only [declareAll, List.map_cons]
    exact .cons (.declare _ _ e.name e.columns) (ih _ _)

theorem Table.isSome_lookup_handles_congr {tables others : List Table}
    (h : tables.map Table.name = others.map Table.name) (name : String) :
    ((Table.handles tables).lookup name).isSome = ((Table.handles others).lookup name).isSome := by
  rw [Bool.eq_iff_iff, Table.lookup_handles_isSome_iff, Table.lookup_handles_isSome_iff, h]

namespace Handles

variable {handles handles' : Handles}

theorem wired_congr (h : ∀ name, (handles.lookup name).isSome = (handles'.lookup name).isSome)
    (bindings : List Binding) : handles.wired bindings = handles'.wired bindings := by
  have hwires : handles.wires = handles'.wires := by
    funext x
    unfold wires
    rw [h x.target, h x.source]
  rw [wired, wired, hwires]

theorem relate_agree {rels : List Relationship}
    (h : ∀ rel ∈ rels, (handles.link? rel).isSome = true)
    (h' : ∀ rel ∈ rels, (handles'.link? rel).isSome = true) :
    List.Forall₂ BackendCall.Agree ((rels.filterMap handles.link?).map .relate)
      ((rels.filterMap handles'.link?).map .relate) := by
  induction rels with
  | nil => exact .nil
  | cons rel rest ih =>
    obtain ⟨link, hlink⟩ := Option.isSome_iff_exists.1 (h rel List.mem_cons_self)
    obtain ⟨link', hlink'⟩ := Option.isSome_iff_exists.1 (h' rel List.mem_cons_self)
    have hrest := ih (fun other hother => h other (List.mem_cons_of_mem _ hother))
      (fun other hother => h' other (List.mem_cons_of_mem _ hother))
    rw [List.filterMap_cons_some hlink, List.filterMap_cons_some hlink']
    have hsame : link.association = link'.association :=
      ((handles.link?_eq_some_iff.1 hlink).2.2).trans (handles'.link?_eq_some_iff.1 hlink').2.2.symm
    obtain ⟨owner, target, association⟩ := link
    obtain ⟨owner', target', association'⟩ := link'
    cases hsame
    exact .cons (.relate owner owner' target target' association) hrest

end Handles

/-! ## Two runs -/

namespace Registry.Agree

variable {σ τ : Type} {r r' : Registry}

theorem refl (r : Registry) : r.Agree r := ⟨rfl, rfl, fun _ => rfl, rfl, rfl, rfl⟩

theorem isCompiled_eq (h : r.Agree r') : r.isCompiled = r'.isCompiled := by
  rw [isCompiled, isCompiled, h.state]

variable (b : Backend σ) (c : Backend τ)

theorem register (h : r.Agree r') (document : Json) (s : σ) (t : τ) :
    (r.register b document s).1 = (r'.register c document t).1 ∧
      (r.register b document s).2.1.Agree (r'.register c document t).2.1 ∧
      List.Forall₂ BackendCall.Agree ((r.declared b document s).map .declare)
        ((r'.declared c document t).map .declare) := by
  cases hcompiled : r.isCompiled with
  | true =>
    have hcompiled' := h.isCompiled_eq.symm.trans hcompiled
    rw [register_of_compiled b r hcompiled, register_of_compiled c r' hcompiled',
      declared_of_compiled b r hcompiled, declared_of_compiled c r' hcompiled']
    exact ⟨rfl, h, .nil⟩
  | false =>
    have hcompiled' := h.isCompiled_eq.symm.trans hcompiled
    rw [register_of_idle b r hcompiled, register_of_idle c r' hcompiled',
      declared_of_idle b r hcompiled, declared_of_idle c r' hcompiled']
    refine ⟨rfl, ⟨rfl, ?_, ?_, h.relationships, h.bound, ?_⟩, b.declareAll_agree c _ s t⟩
    · rw [h.entities]
    · intro name
      have hnames : (b.declareAll document.entities s).1.map Table.name =
          (c.declareAll document.entities t).1.map Table.name := by
        rw [Backend.names_declareAll, Backend.names_declareAll]
      have hnew := Table.isSome_lookup_handles_congr hnames name
      have hold : (r.handles.lookup name).isSome = (r'.handles.lookup name).isSome := h.handles name
      simp only [handle?, List.lookup_append, Option.isSome_or, hnew, hold]
    · rw [h.diagnostics]

theorem bind (h : r.Agree r') (bindings : List Binding) (s : σ) (t : τ) :
    (r.bind b bindings s).1.Agree (r'.bind c bindings t).1 ∧
      List.Forall₂ BackendCall.Agree ((r.linked bindings).map .relate)
        ((r'.linked bindings).map .relate) := by
  cases hbound : r.bound with
  | true =>
    have hbound' := h.bound.symm.trans hbound
    rw [bind_of_bound b r hbound, bind_of_bound c r' hbound', linked_of_bound r hbound,
      linked_of_bound r' hbound']
    exact ⟨h, .nil⟩
  | false =>
    have hbound' := h.bound.symm.trans hbound
    have hwired : Handles.wired r.handles bindings = Handles.wired r'.handles bindings :=
      Handles.wired_congr h.handles bindings
    rw [bind_of_unbound b r hbound, bind_of_unbound c r' hbound', linked_of_unbound r hbound,
      linked_of_unbound r' hbound', hwired]
    refine ⟨⟨h.state, h.entities, h.handles, ?_, rfl, h.diagnostics⟩, ?_⟩
    · rw [h.relationships]
    · refine Handles.relate_agree (fun rel hrel => ?_)
        (fun rel hrel => Handles.link?_isSome_of_mem_wired hrel)
      rw [← hwired] at hrel
      exact Handles.link?_isSome_of_mem_wired hrel

theorem step (h : r.Agree r') (operation : Operation) (s : σ) (t : τ) :
    (r.step ⟨b, operation⟩ s).Agree (r'.step ⟨c, operation⟩ t) := by
  cases operation with
  | initializeWith document options =>
    cases hcompiled : r.isCompiled with
    | true =>
      have hcompiled' := h.isCompiled_eq.symm.trans hcompiled
      rw [step_initializeWith_of_compiled b r hcompiled,
        step_initializeWith_of_compiled c r' hcompiled']
      exact ⟨.alreadyInitialized, h, .nil⟩
    | false =>
      have hcompiled' := h.isCompiled_eq.symm.trans hcompiled
      obtain ⟨hbindings, hregistered, hdeclared⟩ := h.register b c document s t
      rw [step_initializeWith_of_idle b r hcompiled, step_initializeWith_of_idle c r' hcompiled']
      dsimp only
      -- both bind what they registered, which is the same
      rw [hbindings]
      obtain ⟨hbound, hlinked⟩ := hregistered.bind b c (r'.register c document t).1 _ _
      have hcalls := List.rel_append hdeclared hlinked
      exact ⟨.initialized _ _, hbound, List.rel_append hcalls (.cons (.synchronize _ _ _) .nil)⟩
  | register document =>
    obtain ⟨hbindings, hregistered, hdeclared⟩ := h.register b c document s t
    rw [step_register, step_register, hbindings]
    exact ⟨.registered _, hregistered, hdeclared⟩
  | bind bindings =>
    obtain ⟨hbound, hlinked⟩ := h.bind b c bindings s t
    rw [step_bind, step_bind]
    exact ⟨.bound, hbound, hlinked⟩
  | synchronize options =>
    rw [step_synchronize, step_synchronize]
    exact ⟨.synchronized _ _, h, .cons (.synchronize _ _ _) .nil⟩

theorem history (h : r.Agree r') (operations : List Operation) (s : σ) (t : τ) :
    List.Forall₂ Step.Agree (history (operations.map (Call.mk b)) r s)
      (history (operations.map (Call.mk c)) r' t) := by
  induction operations generalizing r r' s t with
  | nil => exact .nil
  | cons operation rest ih =>
    have hstep := h.step b c operation s t
    rw [List.map_cons, List.map_cons, history_cons, history_cons]
    exact .cons hstep (ih hstep.registry _ _)

end Registry.Agree

/-- **A model does not depend on its backend**: two runs of the same operations agree step by step
in the registry, in what was answered and in what the backends were asked, whatever handles the
backends return and whenever they fail to synchronize. -/
theorem Registry.history_agrees {σ τ : Type} (b : Backend σ) (c : Backend τ)
    (operations : List Operation) (s : σ) (t : τ) :
    List.Forall₂ Step.Agree (history (operations.map (Call.mk b)) {} s)
      (history (operations.map (Call.mk c)) {} t) :=
  (Agree.refl {}).history b c operations s t

end EntityModel
