import EntityModel.Proofs.Registry.History

/-!
# The order of the calls of a registry

An association names two handles, so the entities they are for must have been declared by then.
Nothing in the code checks that: it rests on the guards of the two phases and on the handles, which
are those of the declarations and no others. Here it is a property of the log of every run
(`run_calls_ordered`), whichever phases are called when.

That a kind of call is only made in one step follows from its guard alone (`pairwise_history`): the
step that makes such calls is the one that sets the guard. The order within the log is an invariant
of the registry and its log together (`Registry.Logged`), kept by each phase.
-/

namespace EntityModel

namespace BackendCall

/-- The order of backend calls, in a log with a list of calls for each call of a registry. -/
structure Ordered (log : List (List BackendCall)) : Prop where
  /-- One list at most declares tables. -/
  declared_once : log.Pairwise fun earlier later => tables earlier = [] ∨ tables later = []
  /-- One list at most makes associations. -/
  related_once : log.Pairwise fun earlier later => links earlier = [] ∨ links later = []
  declared_before : ∀ earlier link later, log.flatten = earlier ++ .relate link :: later →
    tables later = []
  nodup_names : ((tables log.flatten).map Table.name).Nodup
  handles_declared : ∀ earlier link later, log.flatten = earlier ++ .relate link :: later →
    link.owner ∈ (tables earlier).map Table.handle ∧
      link.target ∈ (tables earlier).map Table.handle
  /-- The associations are made two by two, between the same two handles and with no call between
  them. -/
  pairs : ∃ earlier later, ∃ pairs : List (RecordedAssociation × RecordedAssociation),
    log.flatten = earlier ++ (pairs.flatMap fun p => [p.1, p.2]).map .relate ++ later ∧
      links earlier = [] ∧ links later = [] ∧
      ∀ p ∈ pairs, p.1.owner = p.2.owner ∧ p.1.target = p.2.target

/-- Two associations between the same two of some tables. -/
structure Joins (tables : List Table) (p : RecordedAssociation × RecordedAssociation) : Prop where
  owner_eq : p.1.owner = p.2.owner
  target_eq : p.1.target = p.2.target
  owner_mem : p.1.owner ∈ tables.map Table.handle
  target_mem : p.1.target ∈ tables.map Table.handle

/-- A log in which all tables are declared before associations are made, in pairs between them. -/
def Phased (log : List BackendCall) : Prop :=
  ∃ earlier later, ∃ pairs : List (RecordedAssociation × RecordedAssociation),
    log = earlier ++ (pairs.flatMap fun p => [p.1, p.2]).map .relate ++ later ∧
      links earlier = [] ∧ tables later = [] ∧ links later = [] ∧
      ∀ p ∈ pairs, Joins (tables earlier) p

namespace Phased

variable {log : List BackendCall}

theorem of_links_eq_nil (h : links log = []) : Phased log :=
  ⟨log, [], [], by simp, h, rfl, rfl, fun _ hp => nomatch hp⟩

theorem synchronize (h : Phased log) (options : SyncOptions) (result : Except BackendError Unit) :
    Phased (log ++ [.synchronize options result]) := by
  obtain ⟨earlier, later, pairs, rfl, hearlier, htables, hlinks, hjoins⟩ := h
  refine ⟨earlier, later ++ [.synchronize options result], pairs, ?_, hearlier, ?_, ?_, hjoins⟩
  · simp only [List.append_assoc]
  · rw [tables_append, htables, tables_synchronize, List.append_nil]
  · rw [links_append, hlinks, links_synchronize, List.append_nil]

/-- Every association stands after all declarations, those of its two handles among them. -/
theorem of_eq_append (h : Phased log) {earlier later : List BackendCall}
    {link : RecordedAssociation} (heq : log = earlier ++ .relate link :: later) :
    tables later = [] ∧ link.owner ∈ (tables earlier).map Table.handle ∧
      link.target ∈ (tables earlier).map Table.handle := by
  obtain ⟨first, last, pairs, rfl, hfirst, htables, hlast, hjoins⟩ := h
  -- the association is not in the first part, which has none
  have hsplit : ∃ middle, earlier = first ++ middle ∧
      (pairs.flatMap fun p => [p.1, p.2]).map .relate ++ last =
        middle ++ .relate link :: later := by
    rw [List.append_assoc] at heq
    rcases List.append_eq_append_iff.1 heq with ⟨middle, hsplit⟩ | ⟨middle, rfl, hrest⟩
    · exact ⟨middle, hsplit⟩
    · cases middle with
      | nil => exact ⟨[], by simp, hrest.symm⟩
      | cons call rest =>
        cases hrest
        rw [links_append] at hfirst
        cases (List.append_eq_nil_iff.1 hfirst).2
  obtain ⟨middle, rfl, hrest⟩ := hsplit
  have hnone : tables middle = [] ∧ tables later = [] := by
    have htail := congrArg tables hrest
    rw [tables_append, tables_map_relate, htables, tables_append] at htail
    exact List.append_eq_nil_iff.1 htail.symm
  have hlink : link ∈ pairs.flatMap fun p => [p.1, p.2] := by
    have htail := congrArg links hrest
    rw [links_append, links_map_relate, hlast, List.append_nil, links_append] at htail
    rw [htail]
    exact List.mem_append_right _ List.mem_cons_self
  obtain ⟨p, hp, hlink⟩ := List.mem_flatMap.1 hlink
  have hjoin := hjoins p hp
  rw [tables_append, hnone.1, List.append_nil]
  refine ⟨hnone.2, ?_⟩
  rcases List.mem_pair.1 hlink with rfl | rfl
  · exact ⟨hjoin.owner_mem, hjoin.target_mem⟩
  · rw [← hjoin.owner_eq, ← hjoin.target_eq]
    exact ⟨hjoin.owner_mem, hjoin.target_mem⟩

theorem ordered {log : List (List BackendCall)} (h : Phased log.flatten)
    (hnodup : ((tables log.flatten).map Table.name).Nodup)
    (hdeclared : log.Pairwise fun earlier later => tables earlier = [] ∨ tables later = [])
    (hrelated : log.Pairwise fun earlier later => links earlier = [] ∨ links later = []) :
    Ordered log where
  declared_once := hdeclared
  related_once := hrelated
  declared_before _ _ _ heq := (h.of_eq_append heq).1
  nodup_names := hnodup
  handles_declared _ _ _ heq := (h.of_eq_append heq).2
  pairs := by
    obtain ⟨earlier, later, pairs, heq, hearlier, -, hlater, hjoins⟩ := h
    exact ⟨earlier, later, pairs, heq, hearlier, hlater,
      fun p hp => ⟨(hjoins p hp).owner_eq, (hjoins p hp).target_eq⟩⟩

end Phased

end BackendCall

/-! ## Pairs of associations -/

namespace Handles

/-- The associations that binding asks for come in pairs. -/
theorem exists_pairs (tables : List Table) (bindings : List Binding) :
    ∃ pairs : List (RecordedAssociation × RecordedAssociation),
      ((Table.handles tables).wired bindings).filterMap (Table.handles tables).link? =
          pairs.flatMap (fun p => [p.1, p.2]) ∧
        ∀ p ∈ pairs, BackendCall.Joins tables p := by
  induction bindings with
  | nil => exact ⟨[], rfl, fun _ hp => nomatch hp⟩
  | cons x rest ih =>
    obtain ⟨pairs, hpairs, hjoins⟩ := ih
    by_cases hwires : (Table.handles tables).wires x = true
    · obtain ⟨target, source, htarget, hsource⟩ := exists_of_wires _ hwires
      have hwired : (Table.handles tables).wired (x :: rest) =
          x.pair ++ (Table.handles tables).wired rest := by
        simp [wired, hwires]
      refine ⟨(⟨target, source, x.hasMany⟩, ⟨target, source, x.belongsTo⟩) :: pairs, ?_, ?_⟩
      · rw [hwired, List.filterMap_append, filterMap_link?_pair _ htarget hsource, hpairs,
          List.flatMap_cons]
      · intro p hp
        rcases List.mem_cons.1 hp with rfl | hp
        · exact ⟨rfl, rfl, Table.mem_of_lookup_handles htarget,
            Table.mem_of_lookup_handles hsource⟩
        · exact hjoins p hp
    · have hwired : (Table.handles tables).wired (x :: rest) =
          (Table.handles tables).wired rest := by
        simp [wired, hwires]
      rw [hwired]
      exact ⟨pairs, hpairs, hjoins⟩

end Handles

namespace Registry

variable {σ : Type} {r : Registry}

/-! ## One step at most -/

section

variable {guard : Registry → Bool} {without : Step → Prop}
  (hstep : ∀ (r : Registry) (call : Call σ) (s : σ),
    (guard (r.step call s).registry = guard r ∧ without (r.step call s)) ∨
      (guard r = false ∧ guard (r.step call s).registry = true))

include hstep

/-- What a step only does when it sets a guard, no step behind the guard does. -/
theorem without_of_mem_history (hguard : guard r = true) {calls : List (Call σ)} {s : σ}
    {step : Step} (h : step ∈ history calls r s) : without step := by
  induction calls generalizing r s with
  | nil => cases h
  | cons call rest ih =>
    rcases hstep r call s with ⟨hkept, hwithout⟩ | ⟨hopen, -⟩
    · rcases List.mem_cons.1 h with rfl | h
      · exact hwithout
      · exact ih (hkept.trans hguard) h
    · rw [hguard] at hopen
      cases hopen

/-- What a step only does when it sets a guard, one step does at most. -/
theorem pairwise_history (calls : List (Call σ)) (r : Registry) (s : σ) :
    (history calls r s).Pairwise fun earlier later => without earlier ∨ without later := by
  induction calls generalizing r s with
  | nil => exact .nil
  | cons call rest ih =>
    rw [history_cons]
    refine List.pairwise_cons.2 ⟨fun later hlater => ?_, ih _ _⟩
    rcases hstep r call s with ⟨-, hwithout⟩ | ⟨-, hset⟩
    · exact .inl hwithout
    · exact .inr (without_of_mem_history hstep hset hlater)

end

/-- A step that declares tables is the one that compiles the model. -/
theorem isCompiled_step (r : Registry) (call : Call σ) (s : σ) :
    ((r.step call s).registry.isCompiled = r.isCompiled ∧
        BackendCall.tables (r.step call s).calls = []) ∨
      (r.isCompiled = false ∧ (r.step call s).registry.isCompiled = true) := by
  obtain ⟨b, operation⟩ := call
  cases operation with
  | initializeWith document options =>
    cases hcompiled : r.isCompiled with
    | true =>
      rw [step_initializeWith_of_compiled b r hcompiled]
      exact .inl ⟨hcompiled, rfl⟩
    | false =>
      rw [step_initializeWith_of_idle b r hcompiled]
      exact .inr ⟨rfl, (isCompiled_bind b _ _ _).trans (isCompiled_register b r document s)⟩
  | register document =>
    rw [step_register]
    cases hcompiled : r.isCompiled with
    | true =>
      rw [declared_of_compiled b r hcompiled]
      exact .inl ⟨isCompiled_register b r document s, rfl⟩
    | false => exact .inr ⟨rfl, isCompiled_register b r document s⟩
  | bind bindings =>
    rw [step_bind]
    exact .inl ⟨isCompiled_bind b r bindings s, BackendCall.tables_map_relate _⟩
  | synchronize options => exact .inl ⟨rfl, rfl⟩

/-- A step that makes associations is the one that binds. -/
theorem bound_step (r : Registry) (call : Call σ) (s : σ) :
    ((r.step call s).registry.bound = r.bound ∧
        BackendCall.links (r.step call s).calls = []) ∨
      (r.bound = false ∧ (r.step call s).registry.bound = true) := by
  obtain ⟨b, operation⟩ := call
  cases operation with
  | initializeWith document options =>
    cases hcompiled : r.isCompiled with
    | true =>
      rw [step_initializeWith_of_compiled b r hcompiled]
      exact .inl ⟨rfl, rfl⟩
    | false =>
      rw [step_initializeWith_of_idle b r hcompiled]
      dsimp only
      -- a registry may be bound before it has a model
      cases hbound : r.bound with
      | true =>
        rw [linked_of_bound _ ((bound_register b r document s).trans hbound)]
        exact .inl ⟨bound_bind b _ _ _, by simp⟩
      | false => exact .inr ⟨rfl, bound_bind b _ _ _⟩
  | register document =>
    rw [step_register]
    exact .inl ⟨bound_register b r document s, BackendCall.links_map_declare _⟩
  | bind bindings =>
    rw [step_bind]
    cases hbound : r.bound with
    | true =>
      rw [linked_of_bound r hbound]
      exact .inl ⟨bound_bind b r bindings s, rfl⟩
    | false => exact .inr ⟨rfl, bound_bind b r bindings s⟩
  | synchronize options => exact .inl ⟨rfl, rfl⟩

/-! ## The log of a registry -/

/-- A log as the phases of a registry leave it. -/
structure Logged (r : Registry) (log : List BackendCall) : Prop where
  handles : r.handles = Table.handles (BackendCall.tables log)
  nodup : ((BackendCall.tables log).map Table.name).Nodup
  idle : r.isCompiled = false → BackendCall.tables log = []
  unbound : r.bound = false ∨ r.isCompiled = false → BackendCall.links log = []
  phased : BackendCall.Phased log

namespace Logged

variable {log : List BackendCall}

theorem new : Logged {} [] :=
  ⟨rfl, List.nodup_nil, fun _ => rfl, fun _ => rfl, .of_links_eq_nil rfl⟩

theorem register (h : r.Logged log) (b : Backend σ) {document : Json}
    (hkeys : document.definitions.keys.Nodup) (s : σ) :
    (r.register b document s).2.1.Logged (log ++ (r.declared b document s).map .declare) := by
  cases hcompiled : r.isCompiled with
  | true =>
    rw [register_of_compiled b r hcompiled, declared_of_compiled b r hcompiled, List.map_nil,
      List.append_nil]
    exact h
  | false =>
    have htables := h.idle hcompiled
    have hlinks := h.unbound (.inr hcompiled)
    rw [register_of_idle b r hcompiled, declared_of_idle b r hcompiled]
    refine ⟨?_, ?_, (nomatch ·), ?_, ?_⟩
    · simp [h.handles, htables, Table.handles]
    · rw [BackendCall.tables_append, htables, BackendCall.tables_map_declare, List.nil_append,
        Backend.names_declareAll, Json.names_entities]
      exact Json.Fields.nodup_keys_models hkeys
    · intro _
      rw [BackendCall.links_append, hlinks, BackendCall.links_map_declare, List.append_nil]
    · refine .of_links_eq_nil ?_
      rw [BackendCall.links_append, hlinks, BackendCall.links_map_declare, List.append_nil]

theorem bind (h : r.Logged log) (b : Backend σ) (bindings : List Binding) (s : σ) :
    (r.bind b bindings s).1.Logged (log ++ (r.linked bindings).map .relate) := by
  cases hbound : r.bound with
  | true =>
    rw [bind_of_bound b r hbound, linked_of_bound r hbound, List.map_nil, List.append_nil]
    exact h
  | false =>
    have hlinks := h.unbound (.inl hbound)
    obtain ⟨pairs, hpairs, hjoins⟩ := Handles.exists_pairs (BackendCall.tables log) bindings
    have hlinked : r.linked bindings = pairs.flatMap fun p => [p.1, p.2] := by
      rw [linked_of_unbound r hbound, h.handles, hpairs]
    rw [bind_of_unbound b r hbound, hlinked]
    refine ⟨?_, ?_, ?_, ?_, ?_⟩
    · simpa using h.handles
    · simpa using h.nodup
    · intro hidle
      simpa using h.idle hidle
    · -- a registry without a model has no handles, so nothing was wired
      rintro (hfalse | hidle)
      · cases hfalse
      · have hnone : r.linked bindings = [] := by
          rw [linked_of_unbound r hbound, h.handles, h.idle hidle]
          exact congrArg (List.filterMap _) (Handles.wired_nil bindings)
        rw [← hlinked, hnone, List.map_nil, List.append_nil, hlinks]
    · exact ⟨log, [], pairs, by simp, hlinks, rfl, rfl, hjoins⟩

theorem synchronize (h : r.Logged log) (options : SyncOptions)
    (result : Except BackendError Unit) : r.Logged (log ++ [.synchronize options result]) where
  handles := by simpa using h.handles
  nodup := by simpa using h.nodup
  idle hidle := by simpa using h.idle hidle
  unbound hfree := by simpa using h.unbound hfree
  phased := h.phased.synchronize options result

/-- Runs whose backends keep their calls keep the registry and its log in accord. -/
theorem run (h : r.Logged log) {calls : List (Call σ)}
    (hkeys : ∀ call ∈ calls, ∀ document ∈ call.operation.document?,
      document.definitions.keys.Nodup) (s : σ) :
    (run (calls.map Call.logged) r (s, log)).1.Logged
      (run (calls.map Call.logged) r (s, log)).2.2 := by
  refine run_keeps (P := fun r (s : σ × List BackendCall) => r.Logged s.2)
    (fun logged hlogged r s hr => ?_) h
  obtain ⟨call, hcall, rfl⟩ := List.mem_map.1 hlogged
  refine perform_keeps (P := fun r (s : σ × List BackendCall) => r.Logged s.2) ?_ ?_ ?_ hr
  · intro document hdocument r s hr
    rw [Call.logged, register_logged]
    exact hr.register call.backend (hkeys call hcall document hdocument) s.1
  · intro bindings r s hr
    rw [Call.logged, bind_logged]
    exact hr.bind call.backend bindings s.1
  · intro options r s hr
    exact hr.synchronize _ _

end Logged

/-! ## Every run -/

/-- **The calls of a registry come in order**, in every run, whichever phases are called when and
with which backends: its declarations in one step and before its associations, which are made in one
step too, in pairs, with handles that the declarations returned. -/
theorem run_calls_ordered {calls : List (Call σ)}
    (hkeys : ∀ call ∈ calls, ∀ document ∈ call.operation.document?,
      document.definitions.keys.Nodup) (s : σ) :
    let log := (history calls {} s).map Step.calls
    run (calls.map Call.logged) {} (s, []) = ((run calls {} s).1, (run calls {} s).2, log.flatten) ∧
      BackendCall.Ordered log := by
  have hrun := run_logged calls {} s []
  have hlogged := Logged.new.run hkeys s
  rw [hrun] at hlogged
  have hdeclared : (history calls {} s).Pairwise fun earlier later =>
      BackendCall.tables earlier.calls = [] ∨ BackendCall.tables later.calls = [] :=
    pairwise_history isCompiled_step calls {} s
  have hrelated : (history calls {} s).Pairwise fun earlier later =>
      BackendCall.links earlier.calls = [] ∨ BackendCall.links later.calls = [] :=
    pairwise_history bound_step calls {} s
  rw [List.nil_append, List.flatMap_def] at hrun hlogged
  exact ⟨hrun, hlogged.phased.ordered hlogged.nodup (List.pairwise_map.2 hdeclared)
    (List.pairwise_map.2 hrelated)⟩

/-- A run of all operations, with a second document and with a binding that nobody returned. -/
theorem run_calls_ordered_forged :
    let document := commentDocument "#/definitions/Post"
    let bindings : List Binding :=
      [⟨"Comment", "Post", "post", .direct⟩, ⟨"Post", "Comment", "forged", .array⟩]
    let calls : List (Call Store) :=
      [⟨Store.backend, .synchronize {}⟩, ⟨Store.backend, .register document⟩,
        ⟨Store.backend, .bind bindings⟩, ⟨Store.backend, .bind bindings⟩,
        ⟨Store.backend, .initializeWith (commentDocument "Post") {}⟩]
    let log := (history calls {} {}).map Step.calls
    (∀ call ∈ calls, ∀ document ∈ call.operation.document?, document.definitions.keys.Nodup) ∧
      log.map List.length = [1, 2, 4, 0, 0] ∧ BackendCall.Ordered log := by
  intro document bindings calls log
  have hkeys : ∀ call ∈ calls, ∀ document ∈ call.operation.document?,
      document.definitions.keys.Nodup := by
    intro call hcall other hother
    simp only [calls, List.mem_cons, List.not_mem_nil, or_false] at hcall
    rcases hcall with rfl | rfl | rfl | rfl | rfl
    · cases hother
    · cases hother
      decide
    · cases hother
    · cases hother
    · cases hother
      decide
  exact ⟨hkeys, by decide, (run_calls_ordered hkeys {}).2⟩

end Registry

end EntityModel
