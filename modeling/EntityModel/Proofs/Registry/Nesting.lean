import EntityModel.Proofs.CommandLine.Outcomes
import EntityModel.Proofs.Entity.Columns
import EntityModel.Proofs.Entity.Fallbacks
import EntityModel.Proofs.Entity.Partition
import EntityModel.Proofs.Json.Measure

/-!
# How deep a model nests

A model takes literals, defaults and whole definitions over from its document, each at a place of
its own. None of them gets more than one level deeper than it was, and no number is new
(`fits_toJson`).
-/

namespace EntityModel

namespace Json

variable {limit : Nat} {allowed : Number → Prop} {value part : Json} {key : String}

theorem Fits.get? (h : Fits limit allowed value) (hpart : value.get? key = some part) :
    Fits (limit - 1) allowed part := by
  cases value with
  | object fields =>
    obtain ⟨before, after, rfl, -⟩ := List.lookup_eq_some_iff.1 hpart
    exact h.of_mem_fields (List.mem_append_right _ List.mem_cons_self)
  | null | bool | number | string | array => cases hpart

theorem Fits.of_mem_fieldsAt? {fields : Fields} {name : String} (h : Fits limit allowed value)
    (hfields : Entity.fieldsAt? value key = some fields) (hpart : (name, part) ∈ fields) :
    Fits (limit - 1 - 1) allowed part := by
  obtain ⟨object, hobject, heq⟩ := Option.bind_eq_some_iff.1 hfields
  cases object with
  | object found =>
    cases heq
    exact (h.get? hobject).of_mem_fields hpart
  | null | bool | number | string | array => cases heq

theorem Fits.of_mem_properties {property : String} (h : Fits limit allowed value)
    (hpart : (property, part) ∈ value.properties) : Fits (limit - 1 - 1) allowed part := by
  unfold properties at hpart
  cases hfields : Entity.fieldsAt? value "properties" with
  | none => simp [hfields] at hpart
  | some fields =>
    rw [hfields] at hpart
    exact h.of_mem_fieldsAt? hfields hpart

theorem Fits.of_mem_models {name : String} (h : Fits limit allowed value)
    (hpart : (name, part) ∈ value.models) : Fits (limit - 1 - 1) allowed part := by
  have hdefinition := (List.mem_filter.1 hpart).1
  unfold definitions at hdefinition
  cases hfields : Entity.fieldsAt? value "definitions" with
  | none => simp [hfields] at hdefinition
  | some fields =>
    rw [hfields] at hdefinition
    exact h.of_mem_fieldsAt? hfields hdefinition

/-! ## Columns -/

theorem Fits.optional {entry : String × Json} {part : Option Json}
    (h : ∀ value, part = some value → Fits limit allowed value)
    (hentry : entry ∈ Json.optional key part) : Fits limit allowed entry.2 := by
  cases part with
  | none => cases hentry
  | some value =>
    cases List.mem_singleton.1 hentry
    exact h value rfl

theorem Fits.flag {entry : String × Json} {b : Bool} (hentry : entry ∈ Json.flag key b) :
    Fits limit allowed entry.2 := by
  cases b with
  | false => cases hentry
  | true =>
    cases List.mem_singleton.1 hentry
    exact .bool true

end Json

open Json

variable {limit : Nat} {allowed : Number → Prop}

theorem StorageType.fits_toJson {type : StorageType}
    (h : ∀ values, type = .enum values → Fits limit allowed (.array values)) :
    Fits (limit + 1) allowed type.toJson := by
  cases type with
  | enum values =>
    rw [toJson, Fits.object_iff]
    simp only [List.mem_cons, List.not_mem_nil, or_false, forall_eq_or_imp, forall_eq]
    exact ⟨.string _, h values rfl⟩
  | _ =>
    rw [toJson, Fits.object_iff]
    simp [Fits.string, Fits.bool]

theorem Column.fits_toJson {c : Column}
    (htype : ∀ values, c.type = .enum values → Fits limit allowed (.array values))
    (hdefault : ∀ value, c.default = some value → Fits limit allowed value) :
    Fits (limit + 2) allowed c.toJson := by
  rw [toJson, Fits.object_iff]
  simp only [List.mem_append, List.mem_cons, List.not_mem_nil, or_false]
  rintro entry (((( rfl | rfl) | hentry) | hentry) | hentry)
  · exact .string _
  · exact StorageType.fits_toJson htype
  · exact .flag hentry
  · exact .optional (fun value hvalue => (hdefault value hvalue).mono (by omega)) hentry
  · exact .flag hentry

theorem Json.Fits.column? {value : Json} {property : String} {c : Column}
    (h : Fits (limit + 1) allowed value) (hcolumn : value.column? property = some c) :
    Fits (limit + 2) allowed c.toJson := by
  have hliterals (values : List Json) : c.type = .enum values → value.literals? = some values :=
    literals?_of_column? hcolumn
  cases hreference : value.reference? with
  | some reference =>
    rw [column?_of_reference (by simp [hreference])] at hcolumn
    cases hcolumn
  | none =>
    rw [column?_of_not_reference hreference] at hcolumn
    cases hcolumn
    apply Column.fits_toJson
    · intro values hvalues
      obtain ⟨list, hlist, hitems⟩ := Option.bind_eq_some_iff.1 (hliterals values hvalues)
      cases list <;> cases hitems
      exact h.get? hlist
    · intro default hdefault
      have hfound : value.default? = some default := by
        rw [← Descriptor.default_ofJson]
        exact hdefault
      exact h.get? (Option.filter_eq_some_iff.1 hfound).1

/-! ## Entities -/

theorem Entity.fits_toJson {name : String} {definition : Json}
    (h : Fits (limit + 3) allowed definition) (bindings : List Binding) :
    Fits (limit + 4) allowed { (compile name definition).1 with bindings }.toJson := by
  have hcolumns : Fits (limit + 3) allowed (compile name definition).1.columns.toJson := by
    rw [ColumnMap.toJson, Fits.array_iff]
    intro item hitem
    obtain ⟨c, hc, rfl⟩ := List.mem_map.1 hitem
    obtain ⟨property, value, hfield, hcolumn⟩ := exists_of_mem_columns hc
    exact (h.of_mem_properties hfield).column? hcolumn
  have hhidden : Fits (limit + 3) allowed
      (.array ((compile name definition).1.hiddenFields.map .string)) := by
    rw [Fits.array_iff]
    intro item hitem
    obtain ⟨field, -, rfl⟩ := List.mem_map.1 hitem
    exact .string field
  rw [toJson, Fits.object_iff]
  simp only [List.mem_append, List.mem_cons, List.not_mem_nil, or_false]
  rintro entry ((rfl | rfl) | hentry)
  · exact .string _
  · exact hcolumns
  · split at hentry
    · cases hentry
    · cases List.mem_singleton.1 hentry
      exact hhidden

theorem Relationship.fits_toJson (r : Relationship) : Fits (limit + 2) allowed r.toJson := by
  rw [toJson, Fits.object_iff]
  simp only [Association.fields, List.mem_append, List.mem_cons, List.not_mem_nil, or_false]
  rintro entry (((rfl | rfl) | (rfl | hentry) | rfl) | (rfl | rfl))
  · exact .string _
  · exact .string _
  · exact .string _
  · refine .optional (fun value hvalue => ?_) hentry
    obtain ⟨role, -, rfl⟩ := Option.map_eq_some_iff.1 hvalue
    exact .string role
  · rw [ForeignKey.toJson, Fits.object_iff]
    intro field hfield
    rcases List.mem_append.1 hfield with hfield | hfield
    · refine .optional (fun value hvalue => ?_) hfield
      obtain ⟨column, -, rfl⟩ := Option.map_eq_some_iff.1 hvalue
      exact .string column
    · cases List.mem_singleton.1 hfield
      exact .bool _
  · exact .string _
  · exact .string _

theorem Diagnostic.fits_toJson {d : Diagnostic} (h : Fits limit allowed d.descriptor) :
    Fits (limit + 1) allowed d.toJson := by
  have hname (key : String) (text : Option String) (entry : String × Json)
      (hentry : entry ∈ Json.optional key (text.map .string)) : Fits limit allowed entry.2 := by
    refine .optional (fun value hvalue => ?_) hentry
    obtain ⟨text, -, rfl⟩ := Option.map_eq_some_iff.1 hvalue
    exact .string text
  rw [toJson, Fits.object_iff]
  simp only [List.mem_append, List.mem_cons, List.not_mem_nil, or_false]
  rintro entry (((( (rfl | rfl | rfl) | hentry) | hentry) | rfl) | hentry)
  · exact .string _
  · exact .string _
  · exact .string _
  · exact hname _ _ _ hentry
  · exact hname _ _ _ hentry
  · exact .string _
  · refine .optional (fun value hvalue => ?_) hentry
    split at hvalue
    · cases hvalue
    · cases hvalue
      exact h

/-! ## Models -/

theorem Entity.fits_of_mem_compile {name : String} {definition : Json} {d : Diagnostic}
    (h : Fits (limit + 3) allowed definition) (hd : d ∈ (compile name definition).2) :
    Fits (limit + 3) allowed d.descriptor := by
  rw [compile_diagnostics] at hd
  cases hproperties : fieldsAt? definition "properties" with
  | none =>
    rw [hproperties] at hd
    cases List.mem_singleton.1 hd
    exact h
  | some properties =>
    rw [hproperties] at hd
    obtain ⟨⟨property, value⟩, hfield, hdiagnostic⟩ := List.mem_filterMap.1 hd
    rw [(of_diagnostic? hdiagnostic).2.2]
    exact (h.of_mem_fieldsAt? hproperties hfield).mono (by omega)

theorem Json.Fits.of_mem_diagnostics {document : Json} {d : Diagnostic}
    (h : Fits (limit + 5) allowed document) (hd : d ∈ document.diagnostics) :
    Fits (limit + 3) allowed d.descriptor := by
  unfold diagnostics at hd
  split at hd
  · obtain ⟨⟨name, definition⟩, hmodel, hd⟩ := List.mem_flatMap.1 hd
    exact Entity.fits_of_mem_compile (h.of_mem_models hmodel) hd
  · cases List.mem_singleton.1 hd
    exact ⟨Nat.zero_le _, by simp [Registry.missingDefinitions, Json.numbers]⟩

/-- A model nests at most one level deeper than its document, or six levels deep, and its numbers
are those of the document. -/
theorem Registry.fits_toJson {document : Json} (h : Fits (limit + 5) allowed document) :
    Fits (limit + 6) allowed (inStore document).toJson := by
  have hentities : Fits (limit + 5) allowed (.array (document.entities.map Entity.toJson)) := by
    rw [Fits.array_iff]
    intro item hitem
    obtain ⟨e, he, rfl⟩ := List.mem_map.1 hitem
    obtain ⟨⟨name, definition⟩, hmodel, rfl⟩ := List.mem_map.1 he
    exact Entity.fits_toJson (h.of_mem_models hmodel) []
  have hrelationships :
      Fits (limit + 5) allowed (.array (document.relationships.map Relationship.toJson)) := by
    rw [Fits.array_iff]
    intro item hitem
    obtain ⟨r, -, rfl⟩ := List.mem_map.1 hitem
    have hfits : Fits (limit + 2) allowed r.toJson := r.fits_toJson
    exact hfits.mono (by omega)
  have hdiagnostics :
      Fits (limit + 5) allowed (.array (document.diagnostics.map Diagnostic.toJson)) := by
    rw [Fits.array_iff]
    intro item hitem
    obtain ⟨d, hd, rfl⟩ := List.mem_map.1 hitem
    exact Diagnostic.fits_toJson (h.of_mem_diagnostics hd)
  rw [toJson, Fits.object_iff]
  simp only [List.mem_append, List.mem_cons, List.not_mem_nil, or_false]
  rintro entry ((rfl | rfl | rfl) | hentry)
  · exact .string _
  · exact hentities
  · exact hrelationships
  · split at hentry
    · cases hentry
    · cases List.mem_singleton.1 hentry
      exact hdiagnostics

/-- What a diagnostic keeps of a document is three levels below the model. -/
theorem Registry.depth_descriptor_le {r : Registry} {d : Diagnostic} (hd : d ∈ r.diagnostics)
    (hnull : d.descriptor.isNull = false) : d.descriptor.depth + 3 ≤ r.toJson.depth := by
  have hdescriptor : d.descriptor.depth < d.toJson.depth := by
    apply depth_lt_object
    rw [hnull]
    exact List.mem_append_right _ (List.mem_singleton_self _)
  have hdiagnostic : d.toJson.depth < (Json.array (r.diagnostics.map Diagnostic.toJson)).depth :=
    depth_lt_array (List.mem_map_of_mem hd)
  have hdiagnostics :
      (Json.array (r.diagnostics.map Diagnostic.toJson)).depth < r.toJson.depth := by
    apply depth_lt_object
    rw [if_neg (by simpa using List.ne_nil_of_mem hd)]
    exact List.mem_append_right _ (List.mem_singleton_self _)
  omega

end EntityModel
