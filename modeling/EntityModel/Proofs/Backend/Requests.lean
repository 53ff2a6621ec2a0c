import EntityModel.Proofs.Backend.Store

/-!
# Requests to a store

A store may be asked for anything at any time: to declare a table, to relate two handles or to
synchronize. What it holds after some requests is told by the requests and its responses alone
(`Answered`). A request keeps that, for it adds one entry to the list that it is for and none to the
others, whether it is refused or not (`Answered.perform`), so it is true after any requests to an
empty store (`answered_run`). From it follow what the lists hold and where names and handles lead
(`run_answered`). Nothing that was added is ever lost (`extends_run`).
-/

namespace EntityModel

/-- What a table was declared with. -/
def Table.shape (t : Table) : String × ColumnMap := (t.name, t.columns)

namespace Store

/-- What a store is asked for. -/
inductive Request where
  | declare (name : String) (columns : ColumnMap)
  | relate (owner target : Handle) (association : Association)
  | synchronize (options : SyncOptions)

/-- What a store answers. -/
inductive Response where
  | declared (handle : Handle)
  | related
  | synchronized (result : Except BackendError Unit)

namespace Request

/-- The shape of the table to declare. -/
def shape? : Request → Option (String × ColumnMap)
  | .declare name columns => some (name, columns)
  | _ => none

def link? : Request → Option RecordedAssociation
  | .relate owner target association => some ⟨owner, target, association⟩
  | _ => none

def options? : Request → Option SyncOptions
  | .synchronize options => some options
  | _ => none

end Request

def Response.handle? : Response → Option Handle
  | .declared handle => some handle
  | _ => none

def perform (s : Store) : Request → Response × Store
  | .declare name columns =>
    let (handle, s) := s.declare name columns
    (.declared handle, s)
  | .relate owner target association => (.related, s.relate owner target association)
  | .synchronize options =>
    let (result, s) := s.synchronize options
    (.synchronized result, s)

def run : List Request → Store → List Response × Store
  | [], s => ([], s)
  | request :: rest, s =>
    let (response, s) := s.perform request
    let (responses, s) := run rest s
    (response :: responses, s)

theorem run_cons (request : Request) (rest : List Request) (s : Store) :
    run (request :: rest) s =
      ((s.perform request).1 :: (run rest (s.perform request).2).1,
        (run rest (s.perform request).2).2) := rfl

/-! ## Nothing is lost -/

/-- Every list of the other store starts with that of the first one, and it fails as that does. -/
structure Extends (s t : Store) : Prop where
  tables : s.tables <+: t.tables
  associations : s.associations <+: t.associations
  syncs : s.syncs <+: t.syncs
  failure : t.failure = s.failure

namespace Extends

theorem refl (s : Store) : s.Extends s :=
  ⟨List.prefix_refl _, List.prefix_refl _, List.prefix_refl _, rfl⟩

theorem trans {s t u : Store} (h : s.Extends t) (h' : t.Extends u) : s.Extends u :=
  ⟨h.tables.trans h'.tables, h.associations.trans h'.associations, h.syncs.trans h'.syncs,
    h'.failure.trans h.failure⟩

end Extends

theorem extends_perform (s : Store) (request : Request) : s.Extends (s.perform request).2 := by
  cases request with
  | declare name columns =>
    exact ⟨List.prefix_append _ _, List.prefix_refl _, List.prefix_refl _, rfl⟩
  | relate owner target association =>
    exact ⟨List.prefix_refl _, List.prefix_append _ _, List.prefix_refl _, rfl⟩
  | synchronize options =>
    exact ⟨List.prefix_refl _, List.prefix_refl _, List.prefix_append _ _, rfl⟩

theorem extends_run (requests : List Request) (s : Store) : s.Extends (run requests s).2 := by
  induction requests generalizing s with
  | nil => exact .refl s
  | cons request rest ih =>
    rw [run_cons]
    exact (extends_perform s request).trans (ih _)

/-! ## What a store holds -/

/-- A store whose lists are those of the requests that it answered. -/
structure Answered (s : Store) (requests : List Request) (responses : List Response) : Prop where
  numbered : s.Numbered
  shapes : s.tables.map Table.shape = requests.filterMap Request.shape?
  handles : s.tables.map Table.handle = responses.filterMap Response.handle?
  associations : s.associations = requests.filterMap Request.link?
  syncs : s.syncs = requests.filterMap Request.options?

namespace Answered

variable {s : Store} {requests : List Request} {responses : List Response}

theorem new (failure : Option String) : Answered { failure } [] [] := ⟨rfl, rfl, rfl, rfl, rfl⟩

theorem perform (h : s.Answered requests responses) (request : Request) :
    (s.perform request).2.Answered (requests ++ [request])
      (responses ++ [(s.perform request).1]) := by
  obtain ⟨hnumbered, hshapes, hhandles, hassociations, hsyncs⟩ := h
  cases request with
  | declare name columns =>
    refine ⟨hnumbered.declare name columns, ?_, ?_, ?_, ?_⟩
    · simp [Store.perform, Store.declare, hshapes, Request.shape?, Table.shape]
    · simp [Store.perform, Store.declare, hhandles, Response.handle?]
    · simp [Store.perform, Store.declare, hassociations, Request.link?]
    · simp [Store.perform, Store.declare, hsyncs, Request.options?]
  | relate owner target association =>
    refine ⟨hnumbered, ?_, ?_, ?_, ?_⟩
    · simp [Store.perform, Store.relate, hshapes, Request.shape?]
    · simp [Store.perform, Store.relate, hhandles, Response.handle?]
    · simp [Store.perform, Store.relate, hassociations, Request.link?]
    · simp [Store.perform, Store.relate, hsyncs, Request.options?]
  | synchronize options =>
    refine ⟨hnumbered, ?_, ?_, ?_, ?_⟩
    · simp [Store.perform, Store.synchronize, hshapes, Request.shape?]
    · simp [Store.perform, Store.synchronize, hhandles, Response.handle?]
    · simp [Store.perform, Store.synchronize, hassociations, Request.link?]
    · simp [Store.perform, Store.synchronize, hsyncs, Request.options?]

theorem run (h : s.Answered requests responses) (more : List Request) :
    (Store.run more s).2.Answered (requests ++ more) (responses ++ (Store.run more s).1) := by
  induction more generalizing s requests responses with
  | nil =>
    rw [List.append_nil, Store.run, List.append_nil]
    exact h
  | cons request more ih =>
    have hmore := ih (h.perform request)
    rwa [List.append_assoc, List.append_assoc] at hmore

end Answered

theorem answered_run (failure : Option String) (requests : List Request) :
    (run requests { failure }).2.Answered requests (run requests { failure }).1 :=
  (Answered.new failure).run requests

/-! ## Positions -/

namespace Numbered

variable {s : Store} (h : s.Numbered) {n : Nat}
include h

theorem handle_eq {table : Table} (htable : s.tables[n]? = some table) :
    table.handle = ⟨.ofNat n⟩ := by
  obtain ⟨hn, -⟩ := List.getElem?_eq_some_iff.1 htable
  have hhandle : (s.tables.map Table.handle)[n]? = some table.handle := by
    rw [List.getElem?_map, htable, Option.map_some]
  rw [h, List.getElem?_map, List.getElem?_range hn] at hhandle
  exact (Option.some.inj hhandle).symm

theorem map_toNat_handles :
    (s.tables.map Table.handle).map (·.id.toNat) =
      (List.range s.tables.length).map (· % UInt32.size) := by
  rw [h, List.map_map]
  refine List.map_congr_left fun k _ => ?_
  exact UInt32.toNat_ofNat'

/-- A name leads to the first table that was declared under it. -/
theorem table?_eq {name : String} {columns : ColumnMap}
    (hn : (s.tables.map Table.shape)[n]? = some (name, columns))
    (hfirst : name ∉ ((s.tables.map Table.shape).take n).map Prod.fst) :
    s.table? name = some ⟨⟨.ofNat n⟩, name, columns⟩ := by
  rw [List.getElem?_map] at hn
  obtain ⟨⟨handle, _, _⟩, htable, hshape⟩ := Option.map_eq_some_iff.1 hn
  obtain ⟨rfl, rfl⟩ := Prod.mk.inj hshape.symm
  obtain rfl : handle = ⟨.ofNat n⟩ := h.handle_eq htable
  obtain ⟨hlt, hget⟩ := List.getElem?_eq_some_iff.1 htable
  refine List.find?_eq_some_iff_append.2
    ⟨beq_self_eq_true _, s.tables.take n, s.tables.drop (n + 1), ?_, ?_⟩
  · rw [← hget, List.getElem_cons_drop, List.take_append_drop]
  · intro table hmem
    have hne : table.name ≠ name := by
      intro heq
      apply hfirst
      rw [← List.map_take, List.map_map]
      exact List.mem_map.2 ⟨table, hmem, heq⟩
    simpa using hne

/-- As long as the handles suffice, each leads to the name it was given for. -/
theorem map_nameOf?_handles (hsize : s.tables.length ≤ UInt32.size) :
    (s.tables.map Table.handle).map s.nameOf? =
      (s.tables.map Table.shape).map fun shape => some shape.1 := by
  rw [List.map_map, List.map_map]
  exact List.map_congr_left fun table htable => nameOf?_handle (h.nodup hsize) htable

end Numbered

theorem table?_eq_none {s : Store} {name : String}
    (h : name ∉ (s.tables.map Table.shape).map Prod.fst) : s.table? name = none := by
  refine List.find?_eq_none.2 fun table hmem heq => h ?_
  rw [List.map_map]
  exact List.mem_map.2 ⟨table, hmem, beq_iff_eq.1 heq⟩

/-- A synchronization is refused exactly by a store that fails. -/
theorem synchronize_eq_ok_iff (s : Store) (options : SyncOptions) :
    (s.synchronize options).1 = .ok () ↔ s.failure = none := by
  unfold synchronize
  cases s.failure with
  | none => simp
  | some message => simp

/-- **What a store holds after any requests**, whether its synchronizations fail or not. The
tables, associations and synchronizations are those that were asked for, in order, and stay so
whatever is asked later; the next request adds one entry to its own list. The handle of a table is
the number of tables declared before it, in 32 bits. A name leads to the first table of that name,
and as long as the handles suffice they are distinct and lead to the names they were given for. -/
theorem run_answered (failure : Option String) (requests : List Request) :
    let responses := (run requests { failure }).1
    let s := (run requests { failure }).2
    let shapes := requests.filterMap Request.shape?
    let handles := responses.filterMap Response.handle?
    handles.map (·.id.toNat) = (List.range shapes.length).map (· % UInt32.size) ∧
      (s.tables.map Table.shape = shapes ∧ s.tables.map Table.handle = handles ∧
        s.associations = requests.filterMap Request.link? ∧
        s.syncs = requests.filterMap Request.options?) ∧
      (∀ more, s.Extends (run more s).2) ∧
      (∀ name columns, ∃ handle, handle.id.toNat = shapes.length % UInt32.size ∧
        s.perform (.declare name columns) =
          (.declared handle, { s with tables := s.tables ++ [⟨handle, name, columns⟩] })) ∧
      (∀ owner target association, s.perform (.relate owner target association) =
        (.related, { s with associations := s.associations ++ [⟨owner, target, association⟩] })) ∧
      (∀ options, ∃ result, (result = .ok () ↔ failure = none) ∧
        s.perform (.synchronize options) =
          (.synchronized result, { s with syncs := s.syncs ++ [options] })) ∧
      (∀ (n : Nat) (name : String) (columns : ColumnMap), shapes[n]? = some (name, columns) →
        name ∉ (shapes.take n).map Prod.fst →
        s.table? name = some ⟨⟨.ofNat n⟩, name, columns⟩) ∧
      (∀ name, name ∉ shapes.map Prod.fst → s.table? name = none) ∧
      (shapes.length ≤ UInt32.size →
        handles.Nodup ∧ handles.map s.nameOf? = shapes.map fun shape => some shape.1) := by
  intro responses s shapes handles
  have h : s.Answered requests responses := answered_run failure requests
  have hfailure : s.failure = failure := (extends_run requests { failure }).failure
  have hshapes : s.tables.map Table.shape = shapes := h.shapes
  have hhandles : s.tables.map Table.handle = handles := h.handles
  have hlength : s.tables.length = shapes.length := by
    rw [← hshapes, List.length_map]
  refine ⟨?_, ⟨hshapes, hhandles, h.associations, h.syncs⟩, fun more => extends_run more s, ?_,
    fun _ _ _ => rfl, ?_, ?_, ?_, ?_⟩
  · rw [← hhandles, ← hlength]
    exact h.numbered.map_toNat_handles
  · intro name columns
    refine ⟨s.nextHandle, ?_, rfl⟩
    rw [← hlength]
    exact UInt32.toNat_ofNat'
  · intro options
    rw [← hfailure]
    exact ⟨(s.synchronize options).1, s.synchronize_eq_ok_iff options, rfl⟩
  · intro n name columns hn hfirst
    rw [← hshapes] at hn hfirst
    exact h.numbered.table?_eq hn hfirst
  · intro name hname
    rw [← hshapes] at hname
    exact table?_eq_none hname
  · intro hsize
    rw [← hlength] at hsize
    rw [← hhandles, ← hshapes]
    exact ⟨h.numbered.nodup hsize, h.numbered.map_nameOf?_handles hsize⟩

/-- Two tables of one name in a store that refuses to synchronize. -/
theorem run_answered_same_names :
    let requests : List Request := [.declare "A" {}, .synchronize {}, .declare "A" {}]
    let responses := (run requests { failure := some "disk full" }).1
    let s := (run requests { failure := some "disk full" }).2
    responses.filterMap Response.handle? = [⟨0⟩, ⟨1⟩] ∧ s.syncs.length = 1 ∧
      s.table? "A" = some ⟨⟨0⟩, "A", {}⟩ ∧ s.nameOf? ⟨0⟩ = some "A" ∧ s.nameOf? ⟨1⟩ = some "A" := by
  intro requests responses s
  obtain ⟨-, -, -, -, -, -, htable, -, hnames⟩ := run_answered (some "disk full") requests
  have hhandles : responses.filterMap Response.handle? = [⟨0⟩, ⟨1⟩] := rfl
  have hfirst := htable 0 "A" {} rfl (by simp)
  have hleads := (hnames (by decide)).2
  rw [hhandles] at hleads
  obtain ⟨hzero, hrest⟩ := List.cons.inj hleads
  exact ⟨hhandles, rfl, hfirst, hzero, (List.cons.inj hrest).1⟩

end Store

end EntityModel
