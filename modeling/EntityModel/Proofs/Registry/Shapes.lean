import EntityModel.Proofs.Registry.Revisions

/-!
# Shapes of a reference

A property refers to another definition by a reference of its own or as an array of references.
The two shapes are wired in the same way: with any arrays of references replaced by the references
alone (`Json.unwrap`), a document has the same model but for the shape that the relationships of
the replaced properties show, and the backend is asked for the same (`initializeWith_unwrap`).
-/

namespace EntityModel

namespace Json

/-- An array of references as the reference alone; every other value as it is. -/
def unwrapped (value : Json) : Json :=
  match value.reference? with
  | some (reference, .array) => .object [("$ref", .string reference)]
  | _ => value

/-- The document with the arrays of references among the given properties replaced, where a
property is given by the name of its definition and its own. -/
def unwrap (replaced : String → String → Bool) (document : Json) : Json :=
  document.revise fun source property value =>
    if replaced source property then value.unwrapped else value

section

variable (value : Json)

theorem reference?_unwrapped :
    value.unwrapped.reference? =
      value.reference?.map fun (reference, _) => (reference, .direct) := by
  unfold unwrapped
  cases hreference : value.reference? with
  | none => exact hreference
  | some found =>
    obtain ⟨reference, shape⟩ := found
    cases shape with
    | direct => exact hreference
    | array => rfl

theorem unwrapped_of_column (h : value.reference?.isSome = false) : value.unwrapped = value := by
  have hnone : value.reference? = none := by simpa using h
  rw [unwrapped, hnone]

theorem isSome_reference?_unwrapped :
    value.unwrapped.reference?.isSome = value.reference?.isSome := by
  rw [reference?_unwrapped, Option.isSome_map]

/-- A reference has no column, whatever else is said about the property. -/
theorem column?_unwrapped (property : String) :
    value.unwrapped.column? property = value.column? property := by
  cases hreference : value.reference?.isSome with
  | false => rw [unwrapped_of_column value hreference]
  | true =>
    have hunwrapped := (isSome_reference?_unwrapped value).trans hreference
    rw [column?_of_reference hunwrapped, column?_of_reference hreference]

theorem diagnostic?_unwrapped (entity property : String) :
    value.unwrapped.diagnostic? entity property = value.diagnostic? entity property := by
  cases hreference : value.reference?.isSome with
  | false => rw [unwrapped_of_column value hreference]
  | true =>
    have hunwrapped := (isSome_reference?_unwrapped value).trans hreference
    rw [diagnostic?_of_reference hunwrapped, diagnostic?_of_reference hreference]

theorem propertyRelationships_unwrapped (names : List String) (source property : String) :
    value.unwrapped.propertyRelationships names source property =
      (value.propertyRelationships names source property).map fun rel =>
        { rel with shape := .direct } := by
  unfold propertyRelationships
  rw [reference?_unwrapped]
  cases value.reference? with
  | none => rfl
  | some found =>
    obtain ⟨reference, shape⟩ := found
    dsimp only [Option.map_some]
    split
    · rfl
    · rfl

end

end Json

/-- The relationship as it is once the arrays of references among the given properties are
replaced. -/
def Relationship.unwrapped (replaced : String → String → Bool) (rel : Relationship) :
    Relationship :=
  if replaced rel.other rel.property then { rel with shape := .direct } else rel

theorem Handles.link?_unwrapped (handles : Handles) (replaced : String → String → Bool)
    (rel : Relationship) : handles.link? (rel.unwrapped replaced) = handles.link? rel := by
  unfold Relationship.unwrapped
  split
  · rfl
  · rfl

namespace Json

variable (replaced : String → String → Bool) (document : Json)

theorem entities_unwrap : (document.unwrap replaced).entities = document.entities := by
  refine entities_revise document ?_
  intro source property value
  split
  · exact column?_unwrapped value property
  · rfl

theorem diagnostics_unwrap : (document.unwrap replaced).diagnostics = document.diagnostics := by
  have hsame : (document.unwrap replaced).diagnostics.map id = document.diagnostics.map id := by
    refine diagnostics_revise document ?_
    intro source property value
    split
    · rw [diagnostic?_unwrapped]
    · rfl
  rwa [List.map_id, List.map_id] at hsame

theorem relationships_unwrap :
    (document.unwrap replaced).relationships =
      document.relationships.map (Relationship.unwrapped replaced) := by
  refine relationships_revise document ?_
  intro names source property value
  -- the relationships of a property all tell its name and that of its definition
  have hplace : ∀ rel ∈ value.propertyRelationships names source property,
      rel.unwrapped replaced =
        if replaced source property then { rel with shape := .direct } else rel := by
    intro rel hrel
    obtain ⟨hother, hproperty⟩ := of_mem_propertyRelationships hrel
    rw [Relationship.unwrapped, hother, hproperty]
  rw [List.map_congr_left hplace]
  cases replaced source property with
  | true =>
    simp only [if_true]
    exact propertyRelationships_unwrapped value names source property
  | false =>
    simp only [Bool.false_eq_true, if_false]
    exact (List.map_id _).symm

end Json

namespace Registry

variable {σ : Type}

/-- **What the shape of a reference decides**: nothing but the shape that its relationships show.
With any arrays of references replaced, initializing a new registry has the same outcome, leaves
the backend in the same state, so that a store has the same tables and associations, and makes
the same model with the relationships of the replaced properties direct. -/
theorem initializeWith_unwrap (replaced : String → String → Bool) (document : Json)
    (b : Backend σ) (options : InitOptions) (s : σ) :
    let made := initializeWith b {} document options s
    initializeWith b {} (document.unwrap replaced) options s =
      (made.1,
        { made.2.1 with
          relationships := made.2.1.relationships.map (Relationship.unwrapped replaced) },
        made.2.2) := by
  intro made
  have hlinks : ∀ handles : Handles,
      (document.unwrap replaced).relationships.filterMap handles.link? =
        document.relationships.filterMap handles.link? := by
    intro handles
    rw [Json.relationships_unwrap, List.filterMap_map]
    refine List.filterMap_congr fun rel _ => ?_
    exact handles.link?_unwrapped replaced rel
  unfold made
  rw [initializeWith_new, initializeWith_new]
  simp only [Bool.false_eq_true, if_false]
  rw [Json.entities_unwrap, hlinks]
  unfold ofDocument
  rw [Json.entities_unwrap, Json.diagnostics_unwrap, Json.relationships_unwrap]

end Registry

end EntityModel
