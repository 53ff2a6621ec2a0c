import Mathlib.Data.List.Nodup
import EntityModel.Proofs.Entity.Columns

/-!
# Columns that were inserted

A map of columns is filled by inserting one column after another, under any names and as often as a
name comes. What it holds is told by the inserted columns alone (`Holds`): every name stands where
it first came, and under it the column that came last. Each insertion keeps that of the columns so
far (`Holds.insert`), so it is true of a map made from the empty one (`holds_foldl`). One more
insertion then touches no column but that of its own name and moves none
(`getElem?_insertList`, `foldl_insert_last_wins`).
-/

namespace EntityModel.ColumnMap

/-! ## One insertion -/

/-- Looking a name up after an insertion, where columns may be of one name. -/
theorem find?_insertList (columns : List Column) (column : Column) (name : String) :
    (insertList columns column).find? (·.name == name) =
      if column.name = name then some column else columns.find? (·.name == name) := by
  induction columns with
  | nil =>
    by_cases hname : column.name = name
    · simp [insertList, hname]
    · simp [insertList, hname]
  | cons first rest ih =>
    rw [insertList]
    by_cases hsame : first.name = column.name
    · by_cases hname : column.name = name
      · simp [hsame, hname]
      · simp [hsame, hname]
    · by_cases hfirst : first.name = name
      · have hname : column.name ≠ name := fun h => hsame (hfirst.trans h.symm)
        simp only [hsame, if_false, List.find?_cons, beq_iff_eq.2 hfirst, hname]
      · simp only [hsame, if_false, List.find?_cons, beq_eq_false_iff_ne.2 hfirst, ih]

theorem get?_insert (m : ColumnMap) (column : Column) (name : String) :
    (m.insert column).get? name = if column.name = name then some column else m.get? name :=
  find?_insertList m.toList column name

/-- Where no name comes twice, an insertion leaves every column where it is, but that the column of
its name becomes another. -/
theorem getElem?_insertList {columns : List Column} (hnames : (columns.map Column.name).Nodup)
    (column : Column) {k : Nat} {c : Column} (hc : columns[k]? = some c) :
    (insertList columns column)[k]? = some (if c.name = column.name then column else c) := by
  induction columns generalizing k with
  | nil => cases hc
  | cons first rest ih =>
    obtain ⟨hfirst, hrest⟩ := List.nodup_cons.1 hnames
    rw [insertList]
    split
    next hsame =>
      cases k with
      | zero =>
        cases hc
        simp [hsame]
      | succ k =>
        -- the name was the first one, so it is not that of a later column
        have hmem : c ∈ rest := List.mem_of_getElem? hc
        have hne : c.name ≠ column.name := by
          intro heq
          apply hfirst
          rw [hsame, ← heq]
          exact List.mem_map_of_mem hmem
        simpa [hne] using hc
    next hsame =>
      cases k with
      | zero =>
        cases hc
        simp [hsame]
      | succ k => exact ih hrest hc

theorem of_get? {m : ColumnMap} {name : String} {c : Column} (h : m.get? name = some c) :
    c ∈ m.toList ∧ c.name = name := by
  unfold get? at h
  have hname := List.find?_some h
  exact ⟨List.mem_of_find?_eq_some h, beq_iff_eq.1 hname⟩

theorem contains_iff_mem_names {m : ColumnMap} {name : String} :
    m.contains name = true ↔ name ∈ m.names := by
  simp [contains, get?, names, List.find?_isSome]

theorem size_eq_length_names (m : ColumnMap) : m.size = m.names.length := by
  simp [size, names]

theorem size_insert (m : ColumnMap) (column : Column) :
    (m.insert column).size = if m.contains column.name then m.size else m.size + 1 := by
  rw [size_eq_length_names, size_eq_length_names, names_insert]
  by_cases h : column.name ∈ m.names
  · rw [if_pos h, if_pos (contains_iff_mem_names.2 h)]
  · rw [if_neg h, if_neg (mt contains_iff_mem_names.1 h), List.length_append]
    rfl

/-- Where no name comes twice, every column is the one under its name. -/
theorem map_get?_names {m : ColumnMap} (h : m.names.Nodup) :
    m.names.map m.get? = m.toList.map some := by
  unfold names at h ⊢
  rw [List.map_map]
  refine List.map_congr_left fun c hc => ?_
  obtain ⟨found, hfound⟩ : ∃ found, m.get? c.name = some found := by
    rw [← Option.isSome_iff_exists]
    exact contains_iff_mem_names.2 (List.mem_map_of_mem hc)
  obtain ⟨hmem, hname⟩ := of_get? hfound
  rw [Function.comp_apply, hfound, List.inj_on_of_nodup_map h hmem hc hname]

/-! ## Any insertions -/

theorem eraseDups_concat (names : List String) (name : String) :
    (names ++ [name]).eraseDups =
      if name ∈ names then names.eraseDups else names.eraseDups ++ [name] := by
  rw [List.eraseDups_append]
  by_cases h : name ∈ names
  · simp [h, List.removeAll]
  · simp [h, List.removeAll, List.eraseDups_cons]

/-- What a map holds after some columns were inserted: the names in the order in which they first
came, and under each name the last column that came under it. -/
structure Holds (m : ColumnMap) (columns : List Column) : Prop where
  nodup : m.names.Nodup
  names : m.names = (columns.map Column.name).eraseDups
  get? : ∀ name, m.get? name = columns.findRev? (·.name == name)

namespace Holds

variable {m : ColumnMap} {columns : List Column}

theorem empty : Holds ColumnMap.empty [] := ⟨List.nodup_nil, rfl, fun _ => rfl⟩

theorem mem_names_iff (h : m.Holds columns) {name : String} :
    name ∈ m.names ↔ name ∈ columns.map Column.name := by
  rw [h.names, List.mem_eraseDups]

theorem insert (h : m.Holds columns) (column : Column) :
    (m.insert column).Holds (columns ++ [column]) := by
  refine ⟨nodup_names_insert h.nodup column, ?_, ?_⟩
  · rw [names_insert, List.map_append, List.map_singleton, eraseDups_concat, ← h.names]
    by_cases hmem : column.name ∈ m.names
    · rw [if_pos hmem, if_pos (h.mem_names_iff.1 hmem)]
    · rw [if_neg hmem, if_neg (mt h.mem_names_iff.2 hmem)]
  · intro name
    rw [get?_insert, h.get?]
    by_cases hname : column.name = name
    · simp [hname]
    · simp [hname]

/-- More insertions add to what a map holds. -/
theorem foldl_insert (h : m.Holds columns) (more : List Column) :
    (more.foldl ColumnMap.insert m).Holds (columns ++ more) := by
  induction more generalizing m columns with
  | nil =>
    rw [List.append_nil]
    exact h
  | cons column more ih =>
    have hmore := ih (h.insert column)
    rwa [List.append_assoc] at hmore

end Holds

theorem holds_foldl (columns : List Column) : (columns.foldl insert empty).Holds columns :=
  Holds.empty.foldl_insert columns

/-- **The last column of a name stays, where the name first came.** After any insertions into the
empty map the names are those that were inserted, each once and in the order in which they first
came; looking a name up gives the last column that was inserted under it, and the columns in order
are those that the names lead to. One more insertion gives its name its column, keeps what the other
names lead to, and leaves every column in its place. -/
theorem foldl_insert_last_wins (columns : List Column) (column : Column) :
    let m := columns.foldl insert empty
    let names := (columns.map Column.name).eraseDups
    m.names.Nodup ∧ m.names = names ∧
      (∀ name, m.get? name = columns.findRev? (·.name == name)) ∧
      (∀ name, m.contains name = true ↔ name ∈ columns.map Column.name) ∧
      m.size = names.length ∧ m.toList.map some = names.map m.get? ∧
      (m.insert column).get? column.name = some column ∧
      (∀ name, name ≠ column.name → (m.insert column).get? name = m.get? name) ∧
      (∀ (k : Nat) (c : Column), m.toList[k]? = some c →
        (m.insert column).toList[k]? = some (if c.name = column.name then column else c)) ∧
      (m.insert column).size = if m.contains column.name then m.size else m.size + 1 := by
  intro m names
  have h : m.Holds columns := holds_foldl columns
  refine ⟨h.nodup, h.names, h.get?, ?_, ?_, ?_, ?_, ?_, ?_, ?_⟩
  · intro name
    rw [contains_iff_mem_names, h.mem_names_iff]
  · rw [size_eq_length_names, h.names]
  · rw [← map_get?_names h.nodup, h.names]
  · rw [get?_insert, if_pos rfl]
  · intro name hname
    rw [get?_insert, if_neg hname.symm]
  · intro k c hc
    exact getElem?_insertList h.nodup column hc
  · rw [size_insert]

end EntityModel.ColumnMap
