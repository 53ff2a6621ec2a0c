import EntityModel.Proofs.Entity.References

/-!
# Columns of an entity

Setting a column replaces the one with its name or adds a last one, so no name ever comes twice.
With the rule for the primary key this is what compiling a definition keeps of its columns
(`ColumnMap.WellFormed`, `compile_columns`), whatever the definition is.
-/

namespace EntityModel

namespace ColumnMap

theorem mem_insertList {columns : List Column} {column c : Column}
    (h : c ∈ insertList columns column) : c = column ∨ c ∈ columns := by
  induction columns with
  | nil => exact .inl (List.mem_singleton.1 h)
  | cons first rest ih =>
    unfold insertList at h
    split at h
    · rcases List.mem_cons.1 h with rfl | h
      · exact .inl rfl
      · exact .inr (List.mem_cons_of_mem _ h)
    · rcases List.mem_cons.1 h with rfl | h
      · exact .inr List.mem_cons_self
      · exact (ih h).imp_right (List.mem_cons_of_mem _)

theorem mem_foldl_insert {columns : List Column} {m : ColumnMap} {c : Column}
    (h : c ∈ (columns.foldl insert m).toList) : c ∈ m.toList ∨ c ∈ columns := by
  induction columns generalizing m with
  | nil => exact .inl h
  | cons first rest ih =>
    rcases ih h with h | h
    · rcases mem_insertList h with rfl | h
      · exact .inr List.mem_cons_self
      · exact .inl h
    · exact .inr (List.mem_cons_of_mem _ h)

/-- Setting a column keeps the names, with its own at the end if it is new. -/
theorem names_insertList (columns : List Column) (column : Column) :
    (insertList columns column).map Column.name =
      if column.name ∈ columns.map Column.name then columns.map Column.name
      else columns.map Column.name ++ [column.name] := by
  induction columns with
  | nil => rfl
  | cons first rest ih =>
    unfold insertList
    by_cases hname : first.name = column.name
    · simp [hname]
    · by_cases hmem : column.name ∈ rest.map Column.name
      · simp only [hname, if_false, List.map_cons, ih, hmem, List.mem_cons, or_true, if_true]
      · simp only [hname, if_false, List.map_cons, ih, hmem, List.mem_cons, Ne.symm hname, or_self,
          List.cons_append]

theorem insertList_of_not_mem {columns : List Column} {column : Column}
    (h : column.name ∉ columns.map Column.name) :
    insertList columns column = columns ++ [column] := by
  induction columns with
  | nil => rfl
  | cons first rest ih =>
    obtain ⟨hfirst, hrest⟩ := not_or.1 (mt List.mem_cons.2 h)
    rw [insertList, if_neg (Ne.symm hfirst), ih hrest, List.cons_append]

theorem names_insert (m : ColumnMap) (column : Column) :
    (m.insert column).names =
      if column.name ∈ m.names then m.names else m.names ++ [column.name] :=
  names_insertList m.toList column

/-- Setting a column makes no name come twice. -/
theorem nodup_names_insert {m : ColumnMap} (h : m.names.Nodup) (column : Column) :
    (m.insert column).names.Nodup := by
  rw [names_insert]
  split
  · exact h
  · next hnew =>
    refine List.nodup_append.2 ⟨h, by simp, ?_⟩
    intro name hname other hother heq
    rw [heq, List.mem_singleton.1 hother] at hname
    exact hnew hname

/-- Columns of which no two have one name and of which the primary key is the one named `id`. -/
structure WellFormed (m : ColumnMap) : Prop where
  nodup : m.names.Nodup
  primaryKey_iff : ∀ c ∈ m.toList, c.primaryKey = true ↔ c.name = "id"

namespace WellFormed

theorem empty : WellFormed {} := ⟨List.nodup_nil, fun _ h => nomatch h⟩

theorem insert {m : ColumnMap} (h : m.WellFormed) {column : Column}
    (hcolumn : column.primaryKey = true ↔ column.name = "id") : (m.insert column).WellFormed := by
  refine ⟨nodup_names_insert h.nodup column, ?_⟩
  intro c hc
  rcases mem_insertList hc with rfl | hc
  · exact hcolumn
  · exact h.primaryKey_iff c hc

end WellFormed

end ColumnMap

namespace Entity

theorem columnOf_primaryKey (property : String) (d : Descriptor) (type : StorageType) :
    (columnOf property d type).primaryKey = true ↔ (columnOf property d type).name = "id" :=
  beq_iff_eq

theorem addProperty_columns {e : Entity} (h : e.columns.WellFormed) (property : String)
    (value : Json) : (e.addProperty property value).1.columns.WellFormed := by
  cases hbinding : value.binding? e.name property with
  | some binding =>
    rw [addProperty_of_reference e property value hbinding]
    exact h
  | none =>
    obtain ⟨type, heq⟩ := addProperty_of_column e property value hbinding
    rw [heq]
    exact h.insert (columnOf_primaryKey property _ type)

theorem addProperties_columns {e : Entity} (h : e.columns.WellFormed) (properties : Json.Fields) :
    (e.addProperties properties).1.columns.WellFormed := by
  induction properties generalizing e with
  | nil => exact h
  | cons field rest ih =>
    obtain ⟨property, value⟩ := field
    exact ih (addProperty_columns h property value)

theorem compile_columns (name : String) (definition : Json) :
    (compile name definition).1.columns.WellFormed := by
  rw [compile_fst]
  exact addProperties_columns .empty definition.properties

end Entity

end EntityModel
