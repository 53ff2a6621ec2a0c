import Mathlib.Data.List.Basic
import EntityModel.Proofs.Registry.Consistency

/-!
# What a summary tells

A registry as JSON leaves out whatever is false, absent or empty. Nothing is lost by that: a field
that is left out reads as `none`, and no field that is written does (`Json.Fields.get?_optional`),
so each part of a model can be read back by its key. Two registries that runs lead to have the same
summary exactly if they are the same but for their handles and for being bound
(`run_toJson_eq_iff`).
-/

namespace EntityModel

/-! ## Reading fields -/

namespace Json

@[simp] theorem get?_object (fields : Fields) (key : String) :
    (object fields).get? key = fields.get? key := rfl

namespace Fields

@[simp] theorem get?_append (fields others : Fields) (key : String) :
    get? (fields ++ others) key = (fields.get? key).or (others.get? key) :=
  List.lookup_append

@[simp] theorem get?_optional (name : String) (value : Option Json) (key : String) :
    get? (optional name value) key = if name = key then value else none := by
  cases value with
  | none => simp [optional]
  | some value => simp [optional, get?_cons]

@[simp] theorem get?_flag (name : String) (value : Bool) (key : String) :
    get? (flag name value) key =
      if name = key then if value = true then some (bool true) else none else none := by
  cases value with
  | false => simp [flag]
  | true => simp [flag, get?_cons]

/-- A list that is left out when it is empty. -/
@[simp] theorem get?_listed {α : Type} (name : String) (items : List α) (f : α → Json)
    (key : String) :
    get? (if items = [] then [] else [(name, array (items.map f))]) key =
      if name = key then if items = [] then none else some (array (items.map f)) else none := by
  cases items with
  | nil => simp
  | cons item rest => simp [get?_cons]

end Fields

/-- Written or left out, a flag is told. -/
@[simp] theorem ite_some_true_inj {value other : Bool} :
    ((if value = true then some (bool true) else none) =
      if other = true then some (bool true) else none) ↔ value = other := by
  cases value <;> cases other <;> simp

/-- Written or left out, a list is told. -/
@[simp] theorem ite_listed_inj {α : Type} {f : α → Json} {items others : List α} :
    ((if items = [] then none else some (array (items.map f))) =
      if others = [] then none else some (array (others.map f))) ↔
      items.map f = others.map f := by
  cases items <;> cases others <;> simp

/-- Written or left out, a value is told. -/
@[simp] theorem ite_isNull_inj {value other : Json} :
    ((if value.isNull = true then none else some value) =
      if other.isNull = true then none else some other) ↔ value = other := by
  cases value <;> cases other <;> simp [isNull]

theorem string_injective : Function.Injective string := fun _ _ => string.inj

@[simp] theorem map_string_inj {name other : Option String} :
    name.map string = other.map string ↔ name = other :=
  (Option.map_injective string_injective).eq_iff

end Json

open Json (Fields)

/-! ## Names -/

theorem SizeClass.name_injective : Function.Injective SizeClass.name := by
  intro size other h
  cases size <;> cases other <;> first | rfl | exact absurd h (by decide)

theorem IntWidth.name_injective : Function.Injective IntWidth.name := by
  intro width other h
  cases width <;> cases other <;> first | rfl | exact absurd h (by decide)

theorem Cardinality.name_injective : Function.Injective Cardinality.name := by
  intro cardinality other h
  cases cardinality <;> cases other <;> first | rfl | exact absurd h (by decide)

theorem ReferenceShape.name_injective : Function.Injective ReferenceShape.name := by
  intro shape other h
  cases shape <;> cases other <;> first | rfl | exact absurd h (by decide)

theorem DiagnosticKind.name_injective : Function.Injective DiagnosticKind.name := by
  intro kind other h
  cases kind <;> cases other <;> first | rfl | exact absurd h (by decide)

theorem RegistryState.name_injective : Function.Injective RegistryState.name := by
  intro state other h
  cases state <;> cases other <;> first | rfl | exact absurd h (by decide)

/-! ## Columns -/

theorem StorageType.toJson_injective : Function.Injective StorageType.toJson := by
  intro type other h
  -- two constructors differ in the kind; of one constructor, each argument has a field
  cases type <;> cases other <;>
    simp_all [toJson, SizeClass.name_injective.eq_iff, IntWidth.name_injective.eq_iff]

theorem Column.toJson_injective : Function.Injective Column.toJson := by
  intro column other h
  have hread (key : String) : column.toJson.get? key = other.toJson.get? key := by rw [h]
  have hname : column.name = other.name := by simpa [toJson, Fields.get?_cons] using hread "name"
  have htype : column.type = other.type := by
    simpa [toJson, Fields.get?_cons, StorageType.toJson_injective.eq_iff] using hread "type"
  have hkey : column.primaryKey = other.primaryKey := by
    simpa [toJson, Fields.get?_cons] using hread "primary_key"
  have hdefault : column.default = other.default := by
    simpa [toJson, Fields.get?_cons] using hread "default_value"
  have hhidden : column.hidden = other.hidden := by
    simpa [toJson, Fields.get?_cons] using hread "hidden"
  cases column
  cases other
  simp_all

theorem ColumnMap.toJson_injective : Function.Injective ColumnMap.toJson := by
  rintro ⟨columns⟩ ⟨others⟩ h
  have hlists : columns.map Column.toJson = others.map Column.toJson := by simpa [toJson] using h
  rw [Column.toJson_injective.list_map hlists]

/-! ## Relationships -/

theorem ForeignKey.toJson_injective : Function.Injective ForeignKey.toJson := by
  intro key other h
  have hread (name : String) : key.toJson.get? name = other.toJson.get? name := by rw [h]
  have hname : key.name = other.name := by
    simpa [toJson, Fields.get?_cons] using hread "name"
  have hconstraints : key.constraints = other.constraints := by
    simpa [toJson, Fields.get?_cons] using hread "constraints"
  cases key
  cases other
  simp_all

theorem Relationship.toJson_injective : Function.Injective Relationship.toJson := by
  intro rel other h
  have hread (key : String) : rel.toJson.get? key = other.toJson.get? key := by rw [h]
  have howner : rel.owner = other.owner := by
    simpa [toJson, Fields.get?_cons] using hread "owner"
  have hother : rel.other = other.other := by
    simpa [toJson, Fields.get?_cons] using hread "other"
  have hcardinality : rel.association.cardinality = other.association.cardinality := by
    simpa [toJson, Association.fields, Fields.get?_cons, Cardinality.name_injective.eq_iff]
      using hread "cardinality"
  have hrole : rel.association.role = other.association.role := by
    simpa [toJson, Association.fields, Fields.get?_cons] using hread "alias"
  have hkey : rel.association.foreignKey = other.association.foreignKey := by
    simpa [toJson, Association.fields, Fields.get?_cons, ForeignKey.toJson_injective.eq_iff]
      using hread "foreign_key"
  have hproperty : rel.property = other.property := by
    simpa [toJson, Association.fields, Fields.get?_cons] using hread "property"
  have hshape : rel.shape = other.shape := by
    simpa [toJson, Association.fields, Fields.get?_cons, ReferenceShape.name_injective.eq_iff]
      using hread "shape"
  obtain ⟨owner, other, ⟨cardinality, role, key⟩, property, shape⟩ := rel
  cases other
  simp_all

/-! ## Diagnostics -/

theorem Diagnostic.toJson_injective : Function.Injective Diagnostic.toJson := by
  intro diagnostic other h
  have hread (key : String) : diagnostic.toJson.get? key = other.toJson.get? key := by rw [h]
  have hkind : diagnostic.kind = other.kind := by
    simpa [toJson, Fields.get?_cons, DiagnosticKind.name_injective.eq_iff] using hread "kind"
  have hentity : diagnostic.entity = other.entity := by
    simpa [toJson, Fields.get?_cons] using hread "entity"
  have hproperty : diagnostic.property = other.property := by
    simpa [toJson, Fields.get?_cons] using hread "property"
  have hmessage : diagnostic.message = other.message := by
    simpa [toJson, Fields.get?_cons] using hread "message"
  have hdescriptor : diagnostic.descriptor = other.descriptor := by
    simpa [toJson, Fields.get?_cons] using hread "descriptor"
  cases diagnostic
  cases other
  simp_all

/-! ## Entities -/

theorem Entity.toJson_eq_iff {e other : Entity} :
    e.toJson = other.toJson ↔ e = { other with bindings := e.bindings } := by
  constructor
  · intro h
    have hread (key : String) : e.toJson.get? key = other.toJson.get? key := by rw [h]
    have hname : e.name = other.name := by
      simpa [toJson, Fields.get?_cons] using hread "name"
    have hcolumns : e.columns = other.columns := by
      simpa [toJson, Fields.get?_cons, ColumnMap.toJson_injective.eq_iff] using hread "columns"
    have hhidden : e.hiddenFields = other.hiddenFields := by
      simpa [toJson, Fields.get?_cons, Json.string_injective.list_map.eq_iff]
        using hread "hidden_fields"
    cases e
    cases other
    simp_all
  · intro h
    rw [h]
    rfl

/-- Entities without bindings are told by their summaries. -/
theorem Entity.eq_of_map_toJson_eq {entities others : List Entity}
    (hentities : ∀ e ∈ entities, e.bindings = []) (hothers : ∀ e ∈ others, e.bindings = [])
    (h : entities.map toJson = others.map toJson) : entities = others := by
  induction entities generalizing others with
  | nil => exact (List.map_eq_nil_iff.1 h.symm).symm
  | cons e rest ih =>
    obtain ⟨other, others, rfl, hother, hrest⟩ := List.map_eq_cons_iff.1 h.symm
    obtain ⟨he, hentities⟩ := List.forall_mem_cons.1 hentities
    obtain ⟨hnone, hothers⟩ := List.forall_mem_cons.1 hothers
    have hhead : e = other := by
      rw [toJson_eq_iff.1 hother.symm, he, ← hnone]
    rw [hhead, ih hentities hothers hrest.symm]

/-! ## Registries -/

namespace Registry

variable {σ : Type}

/-- The entities of a registry keep no bindings. -/
theorem bindings_of_mem_entities_run (calls : List (Call σ)) (s : σ) :
    ∀ e ∈ (run calls {} s).1.entities, e.bindings = [] := by
  refine run_keeps (P := fun r _ => ∀ e ∈ r.entities, e.bindings = []) ?_ (fun _ he => nomatch he)
  intro call _ r s hr
  refine perform_keeps (P := fun r _ => ∀ e ∈ r.entities, e.bindings = []) ?_ ?_
    (fun _ _ _ hr => hr) hr
  · intro document _ r s hr
    cases hcompiled : r.isCompiled with
    | true =>
      rw [register_of_compiled _ r hcompiled]
      exact hr
    | false =>
      rw [register_of_idle _ r hcompiled]
      intro e he
      rcases List.mem_append.1 he with he | he
      · exact hr e he
      · exact (of_mem_entities he).2.1
  · intro bindings r s hr
    cases hbound : r.bound with
    | true =>
      rw [bind_of_bound _ r hbound]
      exact hr
    | false =>
      rw [bind_of_unbound _ r hbound]
      exact hr

theorem toJson_eq_iff {r other : Registry} (hr : ∀ e ∈ r.entities, e.bindings = [])
    (hother : ∀ e ∈ other.entities, e.bindings = []) :
    r.toJson = other.toJson ↔ r = { other with handles := r.handles, bound := r.bound } := by
  constructor
  · intro h
    have hread (key : String) : r.toJson.get? key = other.toJson.get? key := by rw [h]
    have hstate : r.state = other.state := by
      simpa [toJson, Fields.get?_cons, RegistryState.name_injective.eq_iff] using hread "state"
    have hsummaries : r.entities.map Entity.toJson = other.entities.map Entity.toJson := by
      simpa [toJson, Fields.get?_cons] using hread "entities"
    have hentities : r.entities = other.entities :=
      Entity.eq_of_map_toJson_eq hr hother hsummaries
    have hrelationships : r.relationships = other.relationships := by
      simpa [toJson, Fields.get?_cons, Relationship.toJson_injective.list_map.eq_iff]
        using hread "relationships"
    have hdiagnostics : r.diagnostics = other.diagnostics := by
      simpa [toJson, Fields.get?_cons, Diagnostic.toJson_injective.list_map.eq_iff]
        using hread "diagnostics"
    cases r
    cases other
    simp_all
  · intro h
    rw [h]
    rfl

/-- **What a summary tells**: two registries that runs lead to, with whatever backends, have the
same summary exactly if they have the same state, entities, relationships and diagnostics. Only the
handles, and whether the registry is bound, cannot be told from it. -/
theorem run_toJson_eq_iff {τ : Type} (calls : List (Call σ)) (others : List (Call τ)) (s : σ)
    (t : τ) :
    let r := (run calls {} s).1
    let other := (run others {} t).1
    r.toJson = other.toJson ↔ r = { other with handles := r.handles, bound := r.bound } :=
  toJson_eq_iff (bindings_of_mem_entities_run calls s) (bindings_of_mem_entities_run others t)

/-- Neither the handles nor being bound is told. -/
example :
    let register : Call Store :=
      ⟨Store.backend, .register (commentDocument "#/definitions/Post")⟩
    let r := (run [register] {} {}).1
    let other := (run [⟨Store.backend, .bind []⟩, register] {} { tables := [⟨⟨0⟩, "Tag", {}⟩] }).1
    r.toJson = other.toJson ∧ r.handles ≠ other.handles ∧ r.bound ≠ other.bound :=
  ⟨rfl, by decide, by decide⟩

end Registry

end EntityModel
