import EntityModel.Proofs.Backend.Log

/-!
# Handles of a store

A store adds what it is asked for at the end of its lists (`declareAll_eq`, `relateAll_eq`) and
numbers its tables in 32 bits. As long as these suffice, no two tables have one handle
(`Numbered.nodup`), and the handle of a table leads to it and to its name.
-/

namespace EntityModel.Store

theorem declareAll_eq (entities : List Entity) (s : Store) :
    (backend.declareAll entities s).2 =
      { s with tables := s.tables ++ (backend.declareAll entities s).1 } := by
  induction entities generalizing s with
  | nil => simp [Backend.declareAll]
  | cons e rest ih =>
    simp only [Backend.declareAll]
    rw [ih]
    simp [backend, declare]

theorem relateAll_eq (links : List RecordedAssociation) (s : Store) :
    backend.relateAll links s = { s with associations := s.associations ++ links } := by
  induction links generalizing s with
  | nil => simp [Backend.relateAll]
  | cons link rest ih =>
    have hcall : backend.relateAll (link :: rest) s =
        backend.relateAll rest (s.relate link.owner link.target link.association) := rfl
    rw [hcall, ih]
    simp [relate]

/-- The handle of a table is the number of tables before it. -/
def Numbered (s : Store) : Prop :=
  s.tables.map Table.handle = (List.range s.tables.length).map fun k => ⟨UInt32.ofNat k⟩

namespace Numbered

variable {s : Store}

theorem declare (h : s.Numbered) (name : String) (columns : ColumnMap) :
    (s.declare name columns).2.Numbered := by
  unfold Numbered at h ⊢
  simp only [Store.declare, List.map_append, List.map_cons, List.map_nil, List.length_append,
    List.length_cons, List.length_nil, Nat.zero_add, List.range_succ]
  rw [h]
  rfl

theorem declareAll (h : s.Numbered) (entities : List Entity) :
    (backend.declareAll entities s).2.Numbered := by
  induction entities generalizing s with
  | nil => exact h
  | cons e rest ih => exact ih (h.declare e.name e.columns)

theorem nodup (h : s.Numbered) (hsize : s.tables.length ≤ UInt32.size) :
    (s.tables.map Table.handle).Nodup := by
  rw [h]
  -- two tables with one handle: neither number was cut to 32 bits
  refine List.nodup_range.map_on fun j hj k hk heq => ?_
  have hj : (UInt32.ofNat j).toNat = j :=
    UInt32.toNat_ofNat_of_lt' (Nat.lt_of_lt_of_le (List.mem_range.1 hj) hsize)
  have hk : (UInt32.ofNat k).toNat = k :=
    UInt32.toNat_ofNat_of_lt' (Nat.lt_of_lt_of_le (List.mem_range.1 hk) hsize)
  calc j = (UInt32.ofNat j).toNat := hj.symm
    _ = (UInt32.ofNat k).toNat := congrArg (fun handle : Handle => handle.id.toNat) heq
    _ = k := hk

end Numbered

/-! ## From handles to tables -/

variable {s : Store} {table : Table}

theorem filter_handle (h : (s.tables.map Table.handle).Nodup) (hmem : table ∈ s.tables) :
    s.tables.filter (·.handle == table.handle) = [table] := by
  obtain ⟨before, after, heq⟩ := List.append_of_mem hmem
  rw [heq] at h ⊢
  rw [List.map_append, List.map_cons, List.nodup_middle, ← List.map_append] at h
  have hnone : ∀ other ∈ before ++ after, other.handle ≠ table.handle :=
    fun other hother hsame => (List.nodup_cons.1 h).1 (hsame ▸ List.mem_map_of_mem hother)
  have hbefore : before.filter (·.handle == table.handle) = [] :=
    List.filter_eq_nil_iff.2 fun other hother => by
      simpa using hnone other (List.mem_append_left _ hother)
  have hafter : after.filter (·.handle == table.handle) = [] :=
    List.filter_eq_nil_iff.2 fun other hother => by
      simpa using hnone other (List.mem_append_right _ hother)
  simp [hbefore, hafter]

theorem nameOf?_handle (h : (s.tables.map Table.handle).Nodup) (hmem : table ∈ s.tables) :
    s.nameOf? table.handle = some table.name := by
  unfold nameOf?
  rw [← List.head?_filter, filter_handle h hmem]
  rfl

end EntityModel.Store
