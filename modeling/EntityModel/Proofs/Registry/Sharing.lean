import Mathlib.Logic.Function.Basic
import EntityModel.Proofs.Backend.Store
import EntityModel.Proofs.Registry.Consistency

/-!
# Registries that share a store

A store and the registries that use it keep separate records of the same tables and associations,
and nothing in the store tells whose they are. The records stay in agreement all the same
(`Registry.Shared`), however the calls of the registries take turns: a phase of one registry adds
to the lists of the store, and what the others rely on is still there. As long as 32 bits suffice
to number the tables, each handle then leads to the one table of its entity, also when several
registries have an entity of that name (`runAll_shares`).
-/

namespace EntityModel

/-- A list whose members, each under the index of a list, are those of the lists in order. -/
def Interleaves {ι α : Type} [DecidableEq ι] (merged : List (ι × α)) (lists : ι → List α) : Prop :=
  ∀ i, (merged.filter (·.1 = i)).map Prod.snd = lists i

/-- More members of one list, at the end. -/
theorem Interleaves.append {ι α : Type} [DecidableEq ι] {merged : List (ι × α)}
    {lists : ι → List α} (h : Interleaves merged lists) (i : ι) (more : List α) :
    Interleaves (merged ++ more.map (Prod.mk i)) (Function.update lists i (lists i ++ more)) := by
  intro j
  rw [List.filter_append, List.map_append, h j, List.filter_map]
  by_cases hj : i = j
  · subst hj
    simp [Function.comp_def]
  · simp [Function.comp_def, hj, Ne.symm hj]

/-- An association of a store that is that of a relationship, with handles of tables under the names
of its two sides. -/
structure RecordedAssociation.Records (tables : List Table) (rel : Relationship)
    (link : RecordedAssociation) : Prop where
  association : link.association = rel.association
  owner : ∃ table ∈ tables, table.handle = link.owner ∧ table.name = rel.owner
  target : ∃ table ∈ tables, table.handle = link.target ∧ table.name = rel.other

theorem RecordedAssociation.Records.mono {tables others : List Table} (h : tables ⊆ others)
    {rel : Relationship} {link : RecordedAssociation} (hrecords : link.Records tables rel) :
    link.Records others rel where
  association := hrecords.association
  owner := hrecords.owner.imp fun _ => And.imp_left (@h _)
  target := hrecords.target.imp fun _ => And.imp_left (@h _)

namespace Registry

variable {ι σ : Type} [DecidableEq ι]

/-- Carries out calls of several registries in order, each with the same backend. -/
def runAll (b : Backend σ) : List (ι × Operation) → (ι → Registry) → σ → (ι → Registry) × σ
  | [], registries, s => (registries, s)
  | (i, operation) :: rest, registries, s =>
    let (_, r, s) := (registries i).perform ⟨b, operation⟩ s
    runAll b rest (Function.update registries i r) s

/-- Every entity has a table of its name and columns under its handle. -/
def Stored (r : Registry) (tables : List Table) : Prop :=
  ∀ e ∈ r.entities, ∃ table ∈ tables,
    r.handle? e.name = some table.handle ∧ table.name = e.name ∧ table.columns = e.columns

/-- Registries and their store, as calls leave them. -/
structure Shared (registries : ι → Registry) (store : Store) : Prop where
  consistent : ∀ i, (registries i).Consistent
  numbered : store.Numbered
  stored : ∀ i, (registries i).Stored store.tables
  associations : ∃ merged, Interleaves merged (fun i => (registries i).relationships) ∧
    List.Forall₂ (fun entry link => link.Records store.tables entry.2) merged store.associations

/-! ## What each phase of a registry adds -/

namespace Stored

variable {r : Registry} {store : Store}

theorem mono {tables others : List Table} (h : r.Stored tables) (hsubset : tables ⊆ others) :
    r.Stored others := by
  intro e he
  obtain ⟨table, htable, hshape⟩ := h e he
  exact ⟨table, hsubset htable, hshape⟩

/-- The entities of a document get the tables that are declared for them. -/
theorem register (h : r.Stored store.tables) (hr : r.Consistent) {document : Json}
    (hkeys : document.definitions.keys.Nodup) :
    (r.register Store.backend document store).2.1.Stored
      (r.register Store.backend document store).2.2.tables := by
  cases hcompiled : r.isCompiled with
  | true =>
    rw [register_of_compiled _ r hcompiled]
    exact h
  | false =>
    rw [hr.eq_new hcompiled, register_of_idle _ _ rfl, Store.declareAll_eq]
    dsimp only
    intro e he
    obtain ⟨table, htable, hname, hcolumns⟩ := Store.backend.mem_declareAll (s := store) he
    have hnames : ((Store.backend.declareAll document.entities store).1.map Table.name).Nodup := by
      rw [Backend.names_declareAll, Json.names_entities]
      exact Json.Fields.nodup_keys_models hkeys
    refine ⟨table, List.mem_append_right _ htable, ?_, hname, hcolumns⟩
    -- of two tables of one name only the last one would be found
    rw [← hname, handle?, List.append_nil]
    exact Table.lookup_handles_of_mem hnames htable

/-- The handle under the name of an entity is that of its table. -/
theorem exists_table (h : r.Stored store.tables) (hr : r.Consistent) {name : String}
    {handle : Handle} (hhandle : r.handle? name = some handle) :
    ∃ table ∈ store.tables, table.handle = handle ∧ table.name = name := by
  have hentity : name ∈ r.entities.map Entity.name := by
    rw [← entity?_isSome_iff, ← hr.handle_iff, hhandle]
    rfl
  obtain ⟨e, he, rfl⟩ := List.mem_map.1 hentity
  obtain ⟨table, htable, hlookup, hname, -⟩ := h e he
  rw [hhandle] at hlookup
  exact ⟨table, htable, (Option.some.inj hlookup).symm, hname⟩

theorem records (h : r.Stored store.tables) (hr : r.Consistent) {rel : Relationship}
    {link : RecordedAssociation} (hlink : Handles.link? r.handles rel = some link) :
    link.Records store.tables rel := by
  obtain ⟨howner, htarget, hassociation⟩ := (Handles.link?_eq_some_iff r.handles).1 hlink
  exact ⟨hassociation, h.exists_table hr howner, h.exists_table hr htarget⟩

end Stored

/-! ## What stays for the others -/

namespace Shared

variable {registries : ι → Registry} {i : ι} {r : Registry} {store : Store}

theorem new (failure : Option String) : Shared (fun _ : ι => {}) { failure } where
  consistent _ := Consistent.new false
  numbered := rfl
  stored _ _ he := nomatch he
  associations := ⟨[], fun _ => rfl, .nil⟩

theorem current (h : Shared (Function.update registries i r) store) :
    r.Consistent ∧ r.Stored store.tables := by
  have hconsistent := h.consistent i
  have hstored := h.stored i
  rw [Function.update_self] at hconsistent hstored
  exact ⟨hconsistent, hstored⟩

/-- A phase of one registry that adds tables to the store, and relationships together with their
associations, keeps the records in agreement. -/
theorem replace (h : Shared (Function.update registries i r) store) {r' : Registry}
    {store' : Store} (hconsistent : r'.Consistent) (hnumbered : store'.Numbered)
    (hsubset : store.tables ⊆ store'.tables) (hstored : r'.Stored store'.tables)
    {rels : List Relationship} {links : List RecordedAssociation}
    (hrels : r'.relationships = r.relationships ++ rels)
    (hlinks : store'.associations = store.associations ++ links)
    (hrecords : List.Forall₂ (fun rel link => link.Records store'.tables rel) rels links) :
    Shared (Function.update registries i r') store' := by
  obtain ⟨-, hconsistents⟩ :=
    (Function.forall_update_iff registries fun _ r => r.Consistent).1 h.consistent
  obtain ⟨-, hstoreds⟩ :=
    (Function.forall_update_iff registries fun _ r => r.Stored store.tables).1 h.stored
  obtain ⟨merged, hmerged, hassociations⟩ := h.associations
  refine
    { consistent := (Function.forall_update_iff registries fun _ r => r.Consistent).2
        ⟨hconsistent, hconsistents⟩
      numbered := hnumbered
      stored := (Function.forall_update_iff registries fun _ r => r.Stored store'.tables).2
        ⟨hstored, fun j hj => (hstoreds j hj).mono hsubset⟩
      associations := ⟨merged ++ rels.map (Prod.mk i), ?_, ?_⟩ }
  · intro j
    rw [hmerged.append i rels j]
    by_cases hj : j = i
    · subst hj
      simp [hrels]
    · simp [hj]
  · -- tables are only added, so the associations made before lead where they led
    rw [hlinks]
    refine List.rel_append ?_ (List.forall₂_map_left_iff.2 hrecords)
    exact hassociations.imp fun _ _ => RecordedAssociation.Records.mono hsubset

theorem register (h : Shared (Function.update registries i r) store) {document : Json}
    (hkeys : document.definitions.keys.Nodup) :
    Shared (Function.update registries i (r.register Store.backend document store).2.1)
      (r.register Store.backend document store).2.2 := by
  obtain ⟨hr, hstored⟩ := h.current
  have hconsistent := hr.register Store.backend hkeys store
  have hnext := hstored.register hr hkeys
  cases hcompiled : r.isCompiled with
  | true =>
    rw [register_of_compiled _ r hcompiled]
    exact h
  | false =>
    rw [register_of_idle _ r hcompiled] at hconsistent hnext ⊢
    have hnumbered := h.numbered.declareAll document.entities
    rw [Store.declareAll_eq] at hnumbered hnext ⊢
    exact h.replace hconsistent hnumbered (List.subset_append_left _ _) hnext
      (List.append_nil _).symm (List.append_nil _).symm .nil

theorem bind (h : Shared (Function.update registries i r) store) (bindings : List Binding) :
    Shared (Function.update registries i (r.bind Store.backend bindings store).1)
      (r.bind Store.backend bindings store).2 := by
  obtain ⟨hr, hstored⟩ := h.current
  have hconsistent := hr.bind Store.backend bindings store
  cases hbound : r.bound with
  | true =>
    rw [bind_of_bound _ r hbound]
    exact h
  | false =>
    rw [bind_of_unbound _ r hbound] at hconsistent ⊢
    rw [Store.relateAll_eq]
    have hlinks := Handles.forall₂_wired r.handles bindings
    exact h.replace hconsistent h.numbered (List.Subset.refl _) hstored rfl rfl
      (hlinks.imp fun _ _ hlink => hstored.records hr hlink)

theorem synchronize (h : Shared registries store) (options : SyncOptions) :
    Shared registries (store.synchronize options).2 :=
  ⟨h.consistent, h.numbered, h.stored, h.associations⟩

theorem perform (h : Shared registries store) (i : ι) (operation : Operation)
    (hkeys : ∀ document ∈ operation.document?, document.definitions.keys.Nodup) :
    Shared
      (Function.update registries i
        ((registries i).perform ⟨Store.backend, operation⟩ store).2.1)
      ((registries i).perform ⟨Store.backend, operation⟩ store).2.2 := by
  -- the invariant as one of the registry that is called, with the others fixed
  rw [← Function.update_eq_self i registries] at h
  refine perform_keeps (P := fun r store => Shared (Function.update registries i r) store)
    ?_ ?_ ?_ h
  · intro document hdocument r store hr
    exact hr.register (hkeys document hdocument)
  · intro bindings r store hr
    exact hr.bind bindings
  · intro options r store hr
    exact hr.synchronize options.syncOptions

theorem runAll (h : Shared registries store) {calls : List (ι × Operation)}
    (hkeys : ∀ call ∈ calls, ∀ document ∈ call.2.document?, document.definitions.keys.Nodup) :
    Shared (runAll Store.backend calls registries store).1
      (runAll Store.backend calls registries store).2 := by
  induction calls generalizing registries store with
  | nil => exact h
  | cons call rest ih =>
    obtain ⟨i, operation⟩ := call
    have hcall := h.perform i operation (hkeys (i, operation) List.mem_cons_self)
    exact ih hcall fun other hother => hkeys other (List.mem_cons_of_mem _ hother)

end Shared

/-! ## Every run -/

/-- **Registries that share a store agree with it**, after every run of calls that take turns in any
way, as long as 32 bits number the tables: the handle of an entity leads to one table, which has the
name and the columns of the entity, and the associations of the store are the relationships of the
registries, interleaved, between handles that lead to the names of their two sides. -/
theorem runAll_shares {calls : List (ι × Operation)}
    (hkeys : ∀ call ∈ calls, ∀ document ∈ call.2.document?, document.definitions.keys.Nodup)
    (failure : Option String)
    (hsize : (runAll Store.backend calls (fun _ => {}) { failure }).2.tables.length ≤ UInt32.size) :
    let ran := runAll Store.backend calls (fun _ => {}) { failure }
    (∀ i, ∀ e ∈ (ran.1 i).entities, ∃ handle table, (ran.1 i).handle? e.name = some handle ∧
        ran.2.tables.filter (·.handle == handle) = [table] ∧ table.name = e.name ∧
        table.columns = e.columns) ∧
      ∃ merged, Interleaves merged (fun i => (ran.1 i).relationships) ∧
        List.Forall₂ (fun entry link => link.association = entry.2.association ∧
          ran.2.nameOf? link.owner = some entry.2.owner ∧
          ran.2.nameOf? link.target = some entry.2.other) merged ran.2.associations := by
  intro ran
  have hshared : Shared ran.1 ran.2 := (Shared.new failure).runAll hkeys
  have hnodup := hshared.numbered.nodup hsize
  have hname : ∀ {handle name},
      (∃ table ∈ ran.2.tables, table.handle = handle ∧ table.name = name) →
        ran.2.nameOf? handle = some name := by
    rintro handle name ⟨table, htable, rfl, rfl⟩
    exact Store.nameOf?_handle hnodup htable
  refine ⟨fun i e he => ?_, ?_⟩
  · obtain ⟨table, htable, hhandle, hshape⟩ := hshared.stored i e he
    exact ⟨table.handle, table, hhandle, Store.filter_handle hnodup htable, hshape⟩
  · obtain ⟨merged, hmerged, hrecords⟩ := hshared.associations
    exact ⟨merged, hmerged, hrecords.imp fun _ _ hlink =>
      ⟨hlink.association, hname hlink.owner, hname hlink.target⟩⟩

/-- Two registries with entities of the same names take turns, and each binds what the other
returned. -/
theorem runAll_shares_same_names :
    let document := commentDocument "#/definitions/Post"
    let calls : List (Fin 2 × Operation) :=
      [(0, .register document), (1, .register document), (1, .bind document.bindings),
        (0, .bind document.bindings), (1, .synchronize {})]
    let ran := runAll Store.backend calls (fun _ => {}) {}
    (∀ call ∈ calls, ∀ document ∈ call.2.document?, document.definitions.keys.Nodup) ∧
      ran.2.tables.length ≤ UInt32.size ∧
      ran.2.tables.map Table.name = ["Post", "Comment", "Post", "Comment"] ∧
      ran.2.associations.map (·.owner.id.toNat) = [2, 2, 0, 0] ∧
      ∃ merged, Interleaves merged (fun i => (ran.1 i).relationships) ∧
        List.Forall₂ (fun entry link => link.association = entry.2.association ∧
          ran.2.nameOf? link.owner = some entry.2.owner ∧
          ran.2.nameOf? link.target = some entry.2.other) merged ran.2.associations := by
  intro document calls ran
  have hkeys : ∀ call ∈ calls, ∀ document ∈ call.2.document?,
      document.definitions.keys.Nodup := by
    intro call hcall other hother
    simp only [calls, List.mem_cons, List.not_mem_nil, or_false] at hcall
    rcases hcall with rfl | rfl | rfl | rfl | rfl
    · cases hother
      decide
    · cases hother
      decide
    · cases hother
    · cases hother
    · cases hother
  have hsize : ran.2.tables.length ≤ UInt32.size := by decide
  exact ⟨hkeys, hsize, by decide, by decide, (runAll_shares hkeys none hsize).2⟩

end Registry

end EntityModel
