import Mathlib.Data.List.Forall2
import Mathlib.Data.List.Perm.Basic
import EntityModel.Entity

/-!
# Documents that differ in one place

Two objects that are the same but for what stands under one key (`Json.ChangedAt`), and two objects
of which the second has the fields of the first in another order, with changed values
(`Json.Shuffled`). One inside the other they say how two documents differ: `Json.Reordered`
documents have the same definitions, and these the same properties, in other orders.
-/

namespace EntityModel.Json

/-- The same but for what stands under a key. -/
inductive ChangedAt (key : String) (change : Json → Json → Prop) : Json → Json → Prop
  | refl (value : Json) : ChangedAt key change value value
  | field {before after : Fields} {value value' : Json} (hbefore : key ∉ before.keys)
      (hvalue : change value value') :
      ChangedAt key change (.object (before ++ (key, value) :: after))
        (.object (before ++ (key, value') :: after))

/-- Fields of one key. -/
def Fields.Changed (change : Json → Json → Prop) (field field' : String × Json) : Prop :=
  field.1 = field'.1 ∧ change field.2 field'.2

/-- The same fields in another order, their values changed. -/
def Fields.Shuffled (change : Json → Json → Prop) (fields fields' : Fields) : Prop :=
  ∃ middle, fields.Perm middle ∧ List.Forall₂ (Fields.Changed change) middle fields'

/-- Objects whose fields are shuffled. -/
inductive Shuffled (change : Json → Json → Prop) : Json → Json → Prop
  | object {fields fields' : Fields} (h : Fields.Shuffled change fields fields') :
      Shuffled change (.object fields) (.object fields')

/-- The second document has the definitions of the first in another order, and each definition its
properties. -/
def Reordered : Json → Json → Prop :=
  ChangedAt "definitions" (Shuffled (ChangedAt "properties" (Shuffled Eq)))

variable {change : Json → Json → Prop}

namespace Fields

theorem get?_append_of_not_mem {before : Fields} {key : String} (h : key ∉ before.keys)
    (value : Json) (after : Fields) : (before ++ (key, value) :: after).get? key = some value := by
  induction before with
  | nil => simp [get?_cons]
  | cons field rest ih =>
    obtain ⟨hfield, hrest⟩ := not_or.1 (mt List.mem_cons.2 h)
    rw [List.cons_append, get?_cons, if_neg (Ne.symm hfield)]
    exact ih hrest

namespace Shuffled

theorem refl (hchange : ∀ value, change value value) (fields : Fields) :
    Fields.Shuffled change fields fields :=
  ⟨fields, .refl _, List.forall₂_same.2 fun field _ => ⟨rfl, hchange field.2⟩⟩

variable {fields fields' : Fields} (h : Fields.Shuffled change fields fields')
include h

theorem keys_perm : fields.keys.Perm fields'.keys := by
  obtain ⟨middle, hperm, hchanged⟩ := h
  have hkeys : keys middle = fields'.keys := by
    clear hperm
    induction hchanged with
    | nil => rfl
    | cons hfield _ ih => exact congrArg₂ List.cons hfield.1 ih
  rw [← hkeys]
  exact hperm.map Prod.fst

/-- Choosing fields by their keys chooses the same ones on both sides. -/
theorem filter (keep : String → Bool) :
    Fields.Shuffled change (fields.filter fun (key, _) => keep key)
      (fields'.filter fun (key, _) => keep key) := by
  obtain ⟨middle, hperm, hchanged⟩ := h
  refine ⟨_, hperm.filter _, ?_⟩
  refine List.rel_filter (fun field field' hfield => ?_) hchanged
  exact iff_of_eq (congrArg (keep · = true) hfield.1)

theorem flatMap_perm {β : Type} {f g : String × Json → List β}
    (hfg : ∀ field ∈ fields, ∀ field', Fields.Changed change field field' →
      (f field).Perm (g field')) : (fields.flatMap f).Perm (fields'.flatMap g) := by
  obtain ⟨middle, hperm, hchanged⟩ := h
  refine (hperm.flatMap_right f).trans ?_
  replace hfg : ∀ field ∈ middle, ∀ field', Fields.Changed change field field' →
      (f field).Perm (g field') := fun field hfield => hfg field (hperm.mem_iff.2 hfield)
  clear hperm
  induction hchanged with
  | nil => exact .nil
  | cons hfield _ ih =>
    rw [List.flatMap_cons, List.flatMap_cons]
    refine (hfg _ List.mem_cons_self _ hfield).append (ih ?_)
    exact fun field hmem => hfg field (List.mem_cons_of_mem _ hmem)

theorem exists_of_mem {field : String × Json} (hfield : field ∈ fields) :
    ∃ field' ∈ fields', Fields.Changed change field field' := by
  obtain ⟨middle, hperm, hchanged⟩ := h
  have hmiddle := hperm.mem_iff.1 hfield
  clear hperm hfield
  induction hchanged with
  | nil => cases hmiddle
  | cons hfirst _ ih =>
    rcases List.mem_cons.1 hmiddle with rfl | hrest
    · exact ⟨_, List.mem_cons_self, hfirst⟩
    · obtain ⟨field', hmem, hfield'⟩ := ih hrest
      exact ⟨field', List.mem_cons_of_mem _ hmem, hfield'⟩

end Shuffled

theorem perm_of_shuffled_eq {fields fields' : Fields} (h : Fields.Shuffled Eq fields fields') :
    fields.Perm fields' := by
  obtain ⟨middle, hperm, hchanged⟩ := h
  have hsame : middle = fields' := by
    refine List.forall₂_eq_eq_eq ▸ hchanged.imp fun field field' hfield => ?_
    exact Prod.ext hfield.1 hfield.2
  rw [← hsame]
  exact hperm

end Fields

namespace ChangedAt

variable {key : String} {value value' : Json}

/-- Where the fields of an object under the key are shuffled, both sides have such an object, or
nothing is changed. -/
theorem fieldsAt?_cases (h : ChangedAt key (Shuffled change) value value') :
    value = value' ∨ ∃ fields fields', Entity.fieldsAt? value key = some fields ∧
      Entity.fieldsAt? value' key = some fields' ∧ Fields.Shuffled change fields fields' := by
  cases h with
  | refl => exact .inl rfl
  | field hbefore hvalue =>
    obtain ⟨hfields⟩ := hvalue
    refine .inr ⟨_, _, ?_, ?_, hfields⟩
    · simp only [Entity.fieldsAt?, get?, fields?, Option.bind_some,
        Fields.get?_append_of_not_mem hbefore]
    · simp only [Entity.fieldsAt?, get?, fields?, Option.bind_some,
        Fields.get?_append_of_not_mem hbefore]

/-- The objects under the key, or no fields where there is none. -/
theorem getD_fieldsAt? (hchange : ∀ value, change value value)
    (h : ChangedAt key (Shuffled change) value value') :
    Fields.Shuffled change ((Entity.fieldsAt? value key).getD [])
      ((Entity.fieldsAt? value' key).getD []) := by
  rcases h.fieldsAt?_cases with rfl | ⟨fields, fields', hvalue, hvalue', hfields⟩
  · exact .refl hchange _
  · rw [hvalue, hvalue']
    exact hfields

end ChangedAt

end EntityModel.Json
