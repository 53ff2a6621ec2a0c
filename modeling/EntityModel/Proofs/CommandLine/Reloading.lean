import EntityModel.Proofs.Json.Bounds
import EntityModel.Proofs.Json.Reread
import EntityModel.Proofs.Registry.Nesting

/-!
# Loading printed models

A printed model is a text like any other, and it can be loaded again: in both layouts it gives the
same document, unless it nests deeper than the reader goes (`ofText_printed`). A model can nest one
level deeper than its document: a definition without properties stands two levels below the root of
its document and three levels below the root of the model. So the model of a document that goes as
deep as the reader may itself be refused (`deep_model_is_refused`).
-/

namespace EntityModel

namespace Document

open Json

/-- A line that holds the text of an object is loaded, or refused for its depth. -/
theorem ofText_spell (l : Layout) {j : Json} (hobject : j.isObject = true)
    (hnumbers : ∀ n ∈ j.numbers, n.Bounded) {text : String}
    (htext : text.toList = spell l 0 j ++ ['\n']) :
    formatOfText text.toList = .json ∧
      if j.depth ≤ Reader.maxDepth then ofText text = .ok j.reread
      else ∃ error, ofText text = .error (.json error) ∧ error.fault = .recursionLimit := by
  cases j with
  | object fields =>
    have hformat : formatOfText text.toList = .json := by
      rw [htext, spell]
      rfl
    refine ⟨hformat, ?_⟩
    have hread := read_spell l hnumbers htext
    unfold ofText parse
    rw [hformat]
    dsimp only
    cases hresult : read text with
    | error error =>
      rw [hresult] at hread
      split at hread
      next => cases hread
      next hdepth =>
        rw [if_neg hdepth]
        exact ⟨error, rfl, Except.error.inj hread⟩
    | ok value =>
      rw [hresult] at hread
      split at hread
      next hdepth =>
        rw [if_pos hdepth]
        cases hread
        rfl
      next => cases hread
  | null | bool | number | string | array => cases hobject

/-- The numbers of a loaded JSON text are bounded. -/
theorem bounded_of_ofText {text : String} {document : Json}
    (hformat : formatOfText text.toList = .json) (h : ofText text = .ok document) :
    ∀ n ∈ document.numbers, n.Bounded := by
  obtain ⟨value, hvalue, hroot⟩ := Except.bind_eq_ok.1 h
  unfold checkRoot at hroot
  split at hroot
  next =>
    cases hroot
    unfold parse at hvalue
    rw [hformat] at hvalue
    dsimp only at hvalue
    cases hread : Json.read text with
    | error error =>
      rw [hread] at hvalue
      cases hvalue
    | ok value =>
      rw [hread] at hvalue
      cases hvalue
      exact bounded_of_read hread
  next => cases hroot

end Document

namespace CommandLine

open Json Document

/-- What a command prints of a model. -/
def Product.printed (product : Product) (r : Registry) : String := product.text r ++ "\n"

theorem Product.exists_toList_printed (pretty autosync : Bool) (r : Registry) :
    ∃ l : Layout, ((Product.model pretty autosync).printed r).toList =
      spell l 0 r.toJson ++ ['\n'] := by
  cases pretty with
  | false => exact ⟨.compact, toList_render_line r.toJson⟩
  | true => exact ⟨.indented, toList_pretty_line r.toJson⟩

/-- A model is loaded from what is printed of it in either layout, or refused for its depth. -/
theorem ofText_printed_inStore {document : Json} (hnumbers : ∀ n ∈ document.numbers, n.Bounded)
    (pretty autosync : Bool) :
    if (Registry.inStore document).toJson.depth ≤ Reader.maxDepth then
      ofText ((Product.model pretty autosync).printed (.inStore document)) =
        .ok (Registry.inStore document).toJson.reread
    else
      ∃ error, ofText ((Product.model pretty autosync).printed (.inStore document)) =
        .error (.json error) ∧ error.fault = .recursionLimit := by
  have hdocument : Fits (document.depth + 5) Number.Bounded document := ⟨by omega, hnumbers⟩
  obtain ⟨l, htext⟩ := Product.exists_toList_printed pretty autosync (.inStore document)
  exact (ofText_spell l rfl (Registry.fits_toJson hdocument).numbers htext).2

/-- A command prints the model of a document that it loads. -/
theorem Command.run_printed {files : Files (StateM FileTree)} {c : Command} {t after : FileTree}
    {document : Json} (houtput : c.output = none)
    (hload : (load files c.source).run t = (.ok document, after)) :
    (c.run files).run t =
      ({ exitCode := 0, stdout := c.product.printed (.inStore document) }, after) := by
  rw [Command.run_eq, StateT.run_bind, hload, houtput]
  rfl

/-- The model of a document that is loaded from a JSON text nests too deep only if the document goes
as deep as the reader. Unless it does, what a command prints of the model is loaded, and gives the
same document in both layouts; else it is refused in both. -/
theorem ofText_printed {text : String} {document : Json}
    (hformat : formatOfText text.toList = .json) (hdocument : ofText text = .ok document) :
    ∃ registry : Registry, (∀ options, modelOf document options = .ok registry) ∧
      (document.depth < Reader.maxDepth → registry.toJson.depth ≤ Reader.maxDepth) ∧
      ∀ pretty autosync,
        (∀ (files : Files (StateM FileTree)) source t after,
          (load files source).run t = (.ok document, after) →
          (Command.run files ⟨.model pretty autosync, source, none⟩).run t =
            ({ exitCode := 0, stdout := (Product.model pretty autosync).printed registry },
              after)) ∧
        if registry.toJson.depth ≤ Reader.maxDepth then
          ofText ((Product.model pretty autosync).printed registry) = .ok registry.toJson.reread
        else
          ∃ error, ofText ((Product.model pretty autosync).printed registry) =
            .error (.json error) ∧ error.fault = .recursionLimit := by
  have hnumbers := bounded_of_ofText hformat hdocument
  refine ⟨.inStore document, modelOf_eq document, fun hdepth => ?_, fun pretty autosync => ?_⟩
  · have hfits : Fits (121 + 5) Number.Bounded document := ⟨Nat.le_of_lt_succ hdepth, hnumbers⟩
    exact (Registry.fits_toJson hfits).depth_le
  · refine ⟨fun files source t after hload => ?_, ofText_printed_inStore hnumbers pretty autosync⟩
    exact Command.run_printed rfl hload

/-- A document with a number among its defaults. -/
def ratedDocument : Json :=
  .object [("definitions", .object [("Post", .object [("properties", .object [("rating", .object
    [("type", .string "number"), ("default", .number (.float ⟨false, 2 ^ 52, -53⟩))])])])])]

theorem ofText_printed_rated :
    formatOfText (ratedDocument.render ++ "\n").toList = .json ∧
      ∃ document registry, ofText (ratedDocument.render ++ "\n") = .ok document ∧
      (∀ options, modelOf document options = .ok registry) ∧
      ∀ pretty autosync, ofText ((Product.model pretty autosync).printed registry) =
        .ok registry.toJson.reread := by
  have hnumbers : ∀ n ∈ ratedDocument.numbers, n.Bounded := by
    intro n hn
    rw [List.mem_singleton.1 hn]
    exact ⟨by decide, by decide, by decide⟩
  obtain ⟨hformat, hload⟩ := ofText_spell .compact rfl hnumbers (toList_render_line ratedDocument)
  rw [if_pos (by decide)] at hload
  obtain ⟨registry, hmodel, hdepth, hprinted⟩ := ofText_printed hformat hload
  refine ⟨hformat, _, registry, hload, hmodel, fun pretty autosync => ?_⟩
  have hloaded := (hprinted pretty autosync).2
  rwa [if_pos (hdepth (by decide +kernel))] at hloaded

/-! ## Models that are refused -/

/-- Arrays in one another. -/
def nestedArrays : Nat → Json
  | 0 => .array []
  | n + 1 => .array [nestedArrays n]

section NestedArrays

variable (n : Nat)

theorem depth_nestedArrays : (nestedArrays n).depth = n + 1 := by
  induction n with
  | zero => rfl
  | succ n ih => simp [nestedArrays, depth, itemsDepth, ih]

theorem numbers_nestedArrays : (nestedArrays n).numbers = [] := by
  induction n with
  | zero => rfl
  | succ n ih => simp [nestedArrays, numbers, itemsNumbers, ih]

theorem reread_nestedArrays : (nestedArrays n).reread = nestedArrays n := by
  induction n with
  | zero => rfl
  | succ n ih => simp [nestedArrays, reread, rereadItems, ih]

/-- A document with one definition, which has no properties. -/
def nestedDocument : Json := .object [("definitions", .object [("A", nestedArrays n)])]

theorem depth_nestedDocument : (nestedDocument n).depth = n + 3 := by
  simp [nestedDocument, depth, fieldsDepth, depth_nestedArrays]

theorem bounded_nestedDocument : ∀ m ∈ (nestedDocument n).numbers, m.Bounded := by
  simp [nestedDocument, numbers, fieldsNumbers, numbers_nestedArrays]

theorem reread_nestedDocument : (nestedDocument n).reread = nestedDocument n := by
  simp only [nestedDocument, reread, rereadFields, reread_nestedArrays]
  rfl

theorem diagnostics_nestedDocument :
    (nestedDocument n).diagnostics = [Entity.missingProperties "A" (nestedArrays n)] := by
  have hproperties : Entity.fieldsAt? (nestedArrays n) "properties" = none := by cases n <;> rfl
  have hdefinitions :
      Entity.fieldsAt? (nestedDocument n) "definitions" = some [("A", nestedArrays n)] := rfl
  have hname : isModelName "A" = true := by decide
  simp [diagnostics, models, definitions, hdefinitions, Fields.models, hname, Fields.diagnostics,
    Entity.compile_diagnostics, hproperties]

/-- The definition stands one level deeper in the model than in its document. -/
theorem depth_inStore_nestedDocument :
    n + 4 ≤ (Registry.inStore (nestedDocument n)).toJson.depth := by
  have hmem : Entity.missingProperties "A" (nestedArrays n) ∈
      (Registry.inStore (nestedDocument n)).diagnostics := by
    show _ ∈ (nestedDocument n).diagnostics
    rw [diagnostics_nestedDocument]
    exact List.mem_singleton_self _
  have hdescriptor : (Entity.missingProperties "A" (nestedArrays n)).descriptor = nestedArrays n :=
    rfl
  have hle := Registry.depth_descriptor_le hmem (by rw [hdescriptor]; cases n <;> rfl)
  rwa [hdescriptor, depth_nestedArrays] at hle

theorem ofText_render_nestedDocument (h : n + 3 ≤ Reader.maxDepth) :
    formatOfText ((nestedDocument n).render ++ "\n").toList = .json ∧
      ofText ((nestedDocument n).render ++ "\n") = .ok (nestedDocument n) := by
  obtain ⟨hformat, hload⟩ :=
    ofText_spell .compact rfl (bounded_nestedDocument n) (toList_render_line (nestedDocument n))
  rw [depth_nestedDocument, if_pos h, reread_nestedDocument] at hload
  exact ⟨hformat, hload⟩

theorem exists_error_nestedDocument (h : Reader.maxDepth ≤ n + 3) (pretty autosync : Bool) :
    ∃ error, ofText ((Product.model pretty autosync).printed (.inStore (nestedDocument n))) =
      .error (.json error) ∧ error.fault = .recursionLimit := by
  have hdeep := depth_inStore_nestedDocument n
  have hrefused := ofText_printed_inStore (bounded_nestedDocument n) pretty autosync
  rwa [if_neg (by omega)] at hrefused

end NestedArrays

/-- A text that nests as deep as the reader goes is loaded, and its model is refused. -/
theorem deep_model_is_refused :
    ∃ text document registry, text = (nestedDocument 124).render ++ "\n" ∧
      formatOfText text.toList = .json ∧ ofText text = .ok document ∧
      (∀ options, modelOf document options = .ok registry) ∧
      ∀ pretty autosync, ∃ error,
        ofText ((Product.model pretty autosync).printed registry) = .error (.json error) ∧
          error.fault = .recursionLimit := by
  obtain ⟨hformat, hload⟩ := ofText_render_nestedDocument 124 (by decide)
  exact ⟨_, nestedDocument 124, .inStore (nestedDocument 124), rfl, hformat, hload, modelOf_eq _,
    exists_error_nestedDocument 124 (by decide)⟩

end CommandLine

end EntityModel
