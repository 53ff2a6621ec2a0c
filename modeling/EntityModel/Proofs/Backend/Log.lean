import Mathlib.Data.List.Nodup
import EntityModel.Backend.Store
import EntityModel.Entity

/-!
# The calls that reach a backend

Registering declares a list of entities and binding relates a list of pairs of entities:
`declareAll` and `relateAll` are such lists of calls as one step of a backend. A registry does not
remember its calls, so what a backend was asked is read off the backend: `logged` also keeps the
calls. It does what the backend does and its log only grows (`declareAll_logged`,
`relateAll_logged`), so a statement about the log of `b.logged` is one about the calls of `b`.
-/

namespace EntityModel

/-- A call that reached a backend, with what the backend answered. -/
inductive BackendCall where
  | declare (table : Table)
  | relate (link : RecordedAssociation)
  | synchronize (options : SyncOptions) (result : Except BackendError Unit)

namespace BackendCall

def table? : BackendCall → Option Table
  | .declare table => some table
  | _ => none

def link? : BackendCall → Option RecordedAssociation
  | .relate link => some link
  | _ => none

/-- The tables declared in a log, in order. -/
def tables (calls : List BackendCall) : List Table := calls.filterMap table?

/-- The associations made in a log, in order. -/
def links (calls : List BackendCall) : List RecordedAssociation := calls.filterMap link?

@[simp] theorem tables_append (calls others : List BackendCall) :
    tables (calls ++ others) = tables calls ++ tables others :=
  List.filterMap_append

@[simp] theorem links_append (calls others : List BackendCall) :
    links (calls ++ others) = links calls ++ links others :=
  List.filterMap_append

@[simp] theorem tables_map_declare (tables : List Table) :
    BackendCall.tables (tables.map .declare) = tables := by
  induction tables with
  | nil => rfl
  | cons table rest ih => exact congrArg (table :: ·) ih

@[simp] theorem links_map_declare (tables : List Table) : links (tables.map .declare) = [] := by
  induction tables with
  | nil => rfl
  | cons table rest ih => exact ih

@[simp] theorem tables_map_relate (links : List RecordedAssociation) :
    tables (links.map .relate) = [] := by
  induction links with
  | nil => rfl
  | cons link rest ih => exact ih

@[simp] theorem links_map_relate (links : List RecordedAssociation) :
    BackendCall.links (links.map .relate) = links := by
  induction links with
  | nil => rfl
  | cons link rest ih => exact congrArg (link :: ·) ih

@[simp] theorem tables_synchronize (options : SyncOptions) (result : Except BackendError Unit) :
    tables [.synchronize options result] = [] := rfl

@[simp] theorem links_synchronize (options : SyncOptions) (result : Except BackendError Unit) :
    links [.synchronize options result] = [] := rfl

end BackendCall

/-- Handles under the names of the entities they are for, the last one first. -/
abbrev Handles := List (String × Handle)

/-- The handles of declared tables. -/
def Table.handles (tables : List Table) : Handles :=
  (tables.map fun table => (table.name, table.handle)).reverse

theorem Table.lookup_handles_isSome_iff {tables : List Table} {name : String} :
    ((Table.handles tables).lookup name).isSome ↔ name ∈ tables.map Table.name := by
  simp only [Table.handles, List.lookup_isSome_iff, List.mem_reverse, List.mem_map, beq_iff_eq]
  constructor
  · rintro ⟨entry, ⟨table, htable, rfl⟩, rfl⟩
    exact ⟨table, htable, rfl⟩
  · rintro ⟨table, htable, rfl⟩
    exact ⟨_, ⟨table, htable, rfl⟩, rfl⟩

theorem Table.exists_of_lookup_handles {tables : List Table} {name : String} {handle : Handle}
    (h : (Table.handles tables).lookup name = some handle) :
    ∃ table ∈ tables, table.name = name ∧ table.handle = handle := by
  obtain ⟨before, after, heq, -⟩ := List.lookup_eq_some_iff.1 h
  have hmem : (name, handle) ∈ Table.handles tables := by
    rw [heq]
    exact List.mem_append_right _ List.mem_cons_self
  obtain ⟨table, htable, hentry⟩ := List.mem_map.1 (List.mem_reverse.1 hmem)
  cases hentry
  exact ⟨table, htable, rfl, rfl⟩

theorem Table.mem_of_lookup_handles {tables : List Table} {name : String} {handle : Handle}
    (h : (Table.handles tables).lookup name = some handle) : handle ∈ tables.map Table.handle := by
  obtain ⟨table, htable, -, rfl⟩ := Table.exists_of_lookup_handles h
  exact List.mem_map_of_mem htable

/-- Where no name comes twice, every table is under its name. -/
theorem Table.lookup_handles_of_mem {tables : List Table} (h : (tables.map Table.name).Nodup)
    {table : Table} (hmem : table ∈ tables) :
    (Table.handles tables).lookup table.name = some table.handle := by
  have hsome := Table.lookup_handles_isSome_iff.2 (List.mem_map_of_mem hmem)
  obtain ⟨handle, hlookup⟩ := Option.isSome_iff_exists.1 hsome
  obtain ⟨other, hother, hname, rfl⟩ := Table.exists_of_lookup_handles hlookup
  rw [hlookup, List.inj_on_of_nodup_map h hother hmem hname]

namespace Backend

variable {σ : Type} (b : Backend σ)

/-- The backend that also keeps its calls. -/
def logged : Backend (σ × List BackendCall) where
  declare s name columns :=
    let (handle, state) := b.declare s.1 name columns
    (handle, state, s.2 ++ [.declare ⟨handle, name, columns⟩])
  relate s owner target association :=
    (b.relate s.1 owner target association, s.2 ++ [.relate ⟨owner, target, association⟩])
  synchronize s options :=
    let (result, state) := b.synchronize s.1 options
    (result, state, s.2 ++ [.synchronize options result])

def declareAll : List Entity → σ → List Table × σ
  | [], s => ([], s)
  | e :: rest, s =>
    let (handle, s) := b.declare s e.name e.columns
    let (tables, s) := declareAll rest s
    (⟨handle, e.name, e.columns⟩ :: tables, s)

def relateAll (links : List RecordedAssociation) (s : σ) : σ :=
  links.foldl (fun s link => b.relate s link.owner link.target link.association) s

@[simp] theorem relateAll_append (links others : List RecordedAssociation) (s : σ) :
    b.relateAll (links ++ others) s = b.relateAll others (b.relateAll links s) :=
  List.foldl_append

theorem declareAll_logged (entities : List Entity) (s : σ) (calls : List BackendCall) :
    b.logged.declareAll entities (s, calls) =
      ((b.declareAll entities s).1, (b.declareAll entities s).2,
        calls ++ (b.declareAll entities s).1.map .declare) := by
  induction entities generalizing s calls with
  | nil => simp [declareAll]
  | cons e rest ih =>
    have hcall : b.logged.declare (s, calls) e.name e.columns =
        ((b.declare s e.name e.columns).1, (b.declare s e.name e.columns).2,
          calls ++ [.declare ⟨(b.declare s e.name e.columns).1, e.name, e.columns⟩]) := rfl
    simp only [declareAll, hcall, ih, List.map_cons, List.append_assoc, List.singleton_append]

theorem relateAll_logged (links : List RecordedAssociation) (s : σ) (calls : List BackendCall) :
    b.logged.relateAll links (s, calls) = (b.relateAll links s, calls ++ links.map .relate) := by
  induction links generalizing s calls with
  | nil => simp [relateAll]
  | cons link rest ih =>
    have hcall : b.logged.relateAll (link :: rest) (s, calls) =
        b.logged.relateAll rest
          (b.relate s link.owner link.target link.association, calls ++ [.relate link]) := rfl
    rw [hcall, ih, List.map_cons, List.append_assoc]
    rfl

theorem mem_declareAll {entities : List Entity} {s : σ} {e : Entity} (h : e ∈ entities) :
    ∃ table ∈ (b.declareAll entities s).1, table.name = e.name ∧ table.columns = e.columns := by
  induction entities generalizing s with
  | nil => cases h
  | cons first rest ih =>
    simp only [declareAll]
    rcases List.mem_cons.1 h with rfl | h
    · exact ⟨_, List.mem_cons_self, rfl, rfl⟩
    · obtain ⟨table, htable, hshape⟩ := ih h
      exact ⟨table, List.mem_cons_of_mem _ htable, hshape⟩

theorem names_declareAll (entities : List Entity) (s : σ) :
    (b.declareAll entities s).1.map Table.name = entities.map Entity.name := by
  induction entities generalizing s with
  | nil => rfl
  | cons e rest ih => simp only [declareAll, List.map_cons, ih]

end Backend

end EntityModel
