import EntityModel.Proofs.Entity.Columns
import EntityModel.Proofs.Registry.Runs

/-!
# Consistency of a registry

One invariant over all fields of a registry (`Registry.Consistent`): there is nothing before there
is a model, every entity has a handle and a name of its own, and the relationships are pairs
between entities. Each operation keeps it, with any backend and any bindings, so every run does
(`run_consistent`).

The documents of a run are objects as readers give them, in which no definition comes twice
(`Json.Fields.nodup_keys_insert`).
-/

namespace EntityModel.Registry

variable {r : Registry}

/-- A registry as runs leave it. -/
structure Consistent (r : Registry) : Prop where
  idle : r.state = .idle →
    r.entities = [] ∧ r.handles = [] ∧ r.relationships = [] ∧ r.diagnostics = []
  nodup : (r.entities.map Entity.name).Nodup
  isModelName : ∀ e ∈ r.entities, Json.isModelName e.name = true
  handle_iff : ∀ name, (r.handle? name).isSome = true ↔ (r.entity? name).isSome = true
  bindings : ∀ e ∈ r.entities, e.bindings = []
  columns : ∀ e ∈ r.entities, e.columns.WellFormed
  relationships : ∃ xs : List Binding, r.relationships = xs.flatMap Binding.pair ∧
    ∀ x ∈ xs, (r.entity? x.target).isSome = true ∧ (r.entity? x.source).isSome = true

theorem entity?_isSome_iff {name : String} :
    (r.entity? name).isSome = true ↔ name ∈ r.entities.map Entity.name := by
  simp [entity?, List.find?_isSome]

theorem of_entity? {name : String} {e : Entity} (h : r.entity? name = some e) :
    e ∈ r.entities ∧ e.name = name := by
  unfold entity? at h
  have hname := List.find?_some h
  exact ⟨List.mem_of_find?_eq_some h, beq_iff_eq.1 hname⟩

/-- Where no name comes twice, looking a name up finds the entity that has it. -/
theorem entity?_eq_some_iff (hnames : (r.entities.map Entity.name).Nodup) {name : String}
    {e : Entity} : r.entity? name = some e ↔ e ∈ r.entities ∧ e.name = name := by
  refine ⟨of_entity?, ?_⟩
  rintro ⟨he, rfl⟩
  have hsome := entity?_isSome_iff.2 (List.mem_map_of_mem he)
  obtain ⟨found, hfound⟩ := Option.isSome_iff_exists.1 hsome
  obtain ⟨hmem, hname⟩ := of_entity? hfound
  rw [hfound, List.inj_on_of_nodup_map hnames hmem he hname]

theorem isCompiled_eq_false_iff : r.isCompiled = false ↔ r.state = .idle := by
  unfold isCompiled
  cases r.state <;> decide

/-! ## Entities of a document -/

theorem of_mem_entities {document : Json} {e : Entity} (h : e ∈ document.entities) :
    e.name ∈ document.entityNames ∧ e.bindings = [] ∧ e.columns.WellFormed := by
  obtain ⟨field, hfield, rfl⟩ := List.mem_map.1 h
  refine ⟨?_, rfl, Entity.compile_columns field.1 field.2⟩
  rw [Entity.compile_name]
  exact List.mem_map_of_mem hfield

/-! ## Each phase -/

namespace Consistent

variable {σ : Type} (b : Backend σ)

theorem new (bound : Bool) : Consistent { bound } where
  idle _ := ⟨rfl, rfl, rfl, rfl⟩
  nodup := List.nodup_nil
  isModelName _ h := nomatch h
  handle_iff _ := Iff.rfl
  bindings _ h := nomatch h
  columns _ h := nomatch h
  relationships := ⟨[], rfl, fun _ h => nomatch h⟩

/-- A registry without a model is a new one, but that it may be bound. -/
theorem eq_new (h : r.Consistent) (hidle : r.isCompiled = false) : r = { bound := r.bound } := by
  have hstate := isCompiled_eq_false_iff.1 hidle
  obtain ⟨hentities, hhandles, hrelationships, hdiagnostics⟩ := h.idle hstate
  obtain ⟨state, entities, handles, relationships, bound, diagnostics⟩ := r
  cases hstate
  cases hentities
  cases hhandles
  cases hrelationships
  cases hdiagnostics
  rfl

theorem register (h : r.Consistent) {document : Json} (hkeys : document.definitions.keys.Nodup)
    (s : σ) : (r.register b document s).2.1.Consistent := by
  cases hcompiled : r.isCompiled with
  | true =>
    rw [register_of_compiled b r hcompiled]
    exact h
  | false =>
    rw [h.eq_new hcompiled, register_of_idle b _ rfl]
    refine ⟨(nomatch ·), ?_, ?_, ?_, ?_, ?_, [], rfl, (fun _ hx => nomatch hx)⟩
    · rw [List.nil_append, Json.names_entities]
      exact Json.Fields.nodup_keys_models hkeys
    · intro e he
      exact (Json.mem_entityNames_iff.1 (of_mem_entities he).1).2
    · intro name
      rw [entity?_isSome_iff, handle?, List.append_nil, List.nil_append, Json.names_entities]
      exact lookup_declareAll_isSome_iff b document s name
    · intro e he
      exact (of_mem_entities he).2.1
    · intro e he
      exact (of_mem_entities he).2.2

/-- Whatever bindings are given, only those between entities are wired. -/
theorem bind (h : r.Consistent) (bindings : List Binding) (s : σ) :
    (r.bind b bindings s).1.Consistent := by
  cases hbound : r.bound with
  | true =>
    rw [bind_of_bound b r hbound]
    exact h
  | false =>
    obtain ⟨xs, hxs, hentities⟩ := h.relationships
    have hwires : ∀ x ∈ bindings.filter (Handles.wires r.handles),
        (r.entity? x.target).isSome = true ∧ (r.entity? x.source).isSome = true := by
      intro x hx
      have hx := (List.mem_filter.1 hx).2
      simp only [Handles.wires, Bool.and_eq_true] at hx
      exact ⟨(h.handle_iff _).1 hx.1.2, (h.handle_iff _).1 hx.2⟩
    rw [bind_of_unbound b r hbound]
    refine ⟨fun hidle => ?_, h.nodup, h.isModelName, h.handle_iff, h.bindings, h.columns,
      xs ++ bindings.filter (Handles.wires r.handles), ?_, ?_⟩
    · obtain ⟨hnone, hhandles, hrelationships, hdiagnostics⟩ := h.idle hidle
      refine ⟨hnone, hhandles, ?_, hdiagnostics⟩
      rw [hrelationships, hhandles, Handles.wired_nil]
      rfl
    · rw [List.flatMap_append, ← hxs]
      rfl
    · intro x hx
      rcases List.mem_append.1 hx with hx | hx
      · exact hentities x hx
      · exact hwires x hx

theorem perform (h : r.Consistent) (call : Call σ)
    (hkeys : ∀ document ∈ call.operation.document?, document.definitions.keys.Nodup) (s : σ) :
    (r.perform call s).2.1.Consistent :=
  perform_keeps (P := fun r _ => r.Consistent)
    (fun document hdocument _ s hr => hr.register _ (hkeys document hdocument) s)
    (fun bindings _ s hr => hr.bind _ bindings s) (fun _ _ _ hr => hr) h

theorem run (h : r.Consistent) {calls : List (Call σ)}
    (hkeys : ∀ call ∈ calls, ∀ document ∈ call.operation.document?,
      document.definitions.keys.Nodup) (s : σ) : (run calls r s).1.Consistent :=
  run_keeps (P := fun r _ => r.Consistent)
    (fun call hcall _ s hr => hr.perform call (hkeys call hcall) s) h

end Consistent

/-- **Every registry that calls lead to is consistent**, in whatever order they come, with
whatever bindings, and whichever backends they are made with. -/
theorem run_consistent {σ : Type} {calls : List (Call σ)}
    (hkeys : ∀ call ∈ calls, ∀ document ∈ call.operation.document?,
      document.definitions.keys.Nodup) (s : σ) : (run calls {} s).1.Consistent :=
  (Consistent.new false).run hkeys s

/-- A run with a binding that nobody returned. -/
theorem run_consistent_forged :
    let calls : List (Call Store) :=
      [⟨Store.backend, .register (commentDocument "#/definitions/Post")⟩,
        ⟨Store.backend, .bind [⟨"Comment", "Post", "forged", .array⟩]⟩]
    (∀ call ∈ calls, ∀ document ∈ call.operation.document?, document.definitions.keys.Nodup) ∧
      (run calls {} {}).1.relationships.length = 2 ∧ (run calls {} {}).1.Consistent := by
  intro calls
  have hkeys : ∀ call ∈ calls, ∀ document ∈ call.operation.document?,
      document.definitions.keys.Nodup := by
    intro call hcall document hdocument
    rcases List.mem_pair.1 hcall with rfl | rfl
    · cases hdocument
      decide
    · cases hdocument
  exact ⟨hkeys, by decide, run_consistent hkeys {}⟩

end EntityModel.Registry
