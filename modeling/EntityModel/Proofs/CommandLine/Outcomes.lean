import Mathlib
import EntityModel.CommandLine.Run
import EntityModel.Proofs.Backend.Store
import EntityModel.Proofs.CommandLine.Flags
import EntityModel.Proofs.Files.Tree
import EntityModel.Proofs.Registry.Wiring

/-!
# Outcomes of commands

A new store refuses nothing, so a document always has a model, and it is the same one with every
option (`modelOf_eq`). What is left to fail are the file operations: a command loads its document
before it touches its output, and then writes that one file at most (`run_command`).
-/

namespace EntityModel

/-- The registry of a document whose entities are declared in a new store. -/
def Registry.inStore (document : Json) : Registry :=
  .ofDocument document (Table.handles (Store.backend.declareAll document.entities {}).1)
    document.relationships

namespace CommandLine

/-! ## Models -/

theorem modelOf_eq (document : Json) (options : InitOptions) :
    modelOf document options = .ok (.inStore document) := by
  have hnew := Registry.initializeWith_new Store.backend false document options {}
  simp only [Store.declareAll_eq, Store.relateAll_eq] at hnew
  unfold modelOf
  rw [hnew]
  rfl

theorem Product.text_forced (product : Product) (r : Registry) :
    product.forced.text r = product.text r := by
  cases product with
  | model pretty autosync => cases pretty <;> rfl
  | tables => rfl

section Run

variable {m : Type → Type} [Monad m] (files : Files m)

theorem Command.run_eq (c : Command) :
    c.run files = (do
      match ← Document.load files c.source with
      | .error error =>
        return { exitCode := error.exitCode, stderr := "Error: " ++ error.message ++ "\n" }
      | .ok document => emit files c.output (c.product.text (.inStore document))) := by
  unfold Command.run
  refine bind_congr fun loaded => ?_
  cases loaded with
  | error error => rfl
  | ok document => simp only [modelOf_eq]

/-- The synchronization does not reach what a command prints or writes. -/
theorem Command.run_congr {c d : Command} (h : c.forced = d.forced) :
    c.run files = d.run files := by
  obtain ⟨hproduct, hsource, houtput⟩ := Command.mk.inj h
  have htext (r : Registry) : c.product.text r = d.product.text r := by
    rw [← Product.text_forced c.product, hproduct, Product.text_forced]
  rw [Command.run_eq, Command.run_eq, hsource, houtput]
  simp only [htext]

theorem run_of_ofArguments {arguments : List String} {c : Command}
    (h : Invocation.ofArguments arguments = .ok (.command c)) :
    run files arguments = c.run files := by
  unfold run
  rw [h]

end Run

end CommandLine

/-! ## Loading -/

namespace Document

variable (files : Files (StateM FileTree)) (source : String) (t : FileTree)

/-- What loading a source gives. -/
def loaded : Except LoadError Json := ((load files source).run t).1

/-- The source starts as an address on the web does. -/
def IsAddress : Prop := "http://".toList <+: source.toList ∨ "https://".toList <+: source.toList

instance : Decidable (IsAddress source) := inferInstanceAs (Decidable (_ ∨ _))

theorem isUrl_iff : isUrl source = true ↔ IsAddress source := by
  unfold isUrl IsAddress
  rw [Bool.or_eq_true, String.startsWith_string_iff, String.startsWith_string_iff]

/-- The text of a source: none if it is on the web, or is not read, or is not UTF-8. -/
def sourceText? : Option String :=
  if IsAddress source then none else ((files.read source).run t).1.toOption.bind String.fromUTF8?

theorem exitCode_ofContent {content : Except ReadFault ByteArray} {error : LoadError}
    (h : ofContent source content = .error error) :
    error.exitCode = if (content.toOption.bind String.fromUTF8?).isSome then 2 else 3 := by
  unfold ofContent at h
  cases content with
  | error fault => cases fault <;> cases h <;> rfl
  | ok bytes =>
    dsimp only at h
    rw [Except.toOption, Option.bind_some]
    cases hutf : String.fromUTF8? bytes with
    | none =>
      rw [hutf] at h
      cases h
      rfl
    | some text =>
      rw [hutf] at h
      dsimp only at h
      -- the text is read, so its format or its root is refused
      cases hparse : parse (formatOfPath source) text with
      | error fault =>
        rw [hparse] at h
        cases h
        unfold parse at hparse
        split at hparse
        · cases hread : Json.read text <;> rw [hread] at hparse <;> cases hparse
          rfl
        · cases hread : Yaml.read text <;> rw [hread] at hparse <;> cases hparse
          rfl
      | ok value =>
        rw [hparse, Except.ok_bind] at h
        unfold checkRoot at h
        split at h <;> cases h
        rfl

theorem loaded_eq : loaded files source t =
    if isUrl source then .error (.notFound source)
    else ofContent source ((files.read source).run t).1 := by
  unfold loaded load
  split <;> rfl

/-- Loading fails with exit code 2 if there is a text, and with 3 if there is none. -/
theorem exitCode_of_loaded {error : LoadError} (h : loaded files source t = .error error) :
    error.exitCode = if (sourceText? files source t).isSome then 2 else 3 := by
  rw [loaded_eq] at h
  unfold sourceText?
  split at h
  next hurl =>
    cases h
    rw [if_pos ((isUrl_iff source).1 hurl)]
    rfl
  next hurl =>
    rw [if_neg (mt (isUrl_iff source).2 hurl)]
    exact exitCode_ofContent source h

variable {files}

theorem run_load (hfiles : files.Faithful) :
    (load files source).run t = (loaded files source t, t) := by
  refine Prod.ext rfl ?_
  unfold load
  split
  · rfl
  · exact hfiles.read_keeps source t

end Document

/-- A tree of one file, which is in the working directory. -/
def FileTree.single (name text : String) : FileTree where
  workingDirectory := ["work"]
  entries := [(["work", name], .file text.toUTF8)]

/-- Reading the file of a tree of one file. -/
theorem FileTree.run_read_single (text : String) :
    (FileTree.files.read "a").run (.single "a" text) = (.ok text.toUTF8, .single "a" text) := by
  have hstart : FileTree.start (.single "a" text) "a" = .ok (["work"], ["a"]) :=
    FileTree.start_of_splitOn (by decide) (by decide) _ (by cbv)
  show (FileTree.read (.single "a" text) "a", FileTree.single "a" text) = _
  simp only [FileTree.read, FileTree.resolve, hstart]
  rfl

namespace CommandLine

variable {files : Files (StateM FileTree)}

theorem Command.run_run (hfiles : files.Faithful) (c : Command) (t : FileTree) :
    (c.run files).run t =
      match Document.loaded files c.source t with
      | .error error =>
        ({ exitCode := error.exitCode, stderr := "Error: " ++ error.message ++ "\n" }, t)
      | .ok document => (emit files c.output (c.product.text (.inStore document))).run t := by
  rw [Command.run_eq, StateT.run_bind, Document.run_load c.source t hfiles]
  cases Document.loaded files c.source t <;> rfl

/-- Writing a text to a file: nothing is printed, no other file is touched, and the exit code tells
whether the write succeeded. -/
theorem emit_output (hfiles : files.Faithful) {path text : String} {t after : FileTree}
    {outcome : Outcome} (h : (emit files (some path) text).run t = (outcome, after)) :
    outcome.stdout = "" ∧
      (∀ other, t.target path ≠ .ok other → after.entry? other = t.entry? other) ∧
      match ((files.write path text).run t).1 with
      | .ok () => outcome.exitCode = 0 ∧ after.read path = .ok text.toUTF8
      | .error _ => outcome.exitCode = 3 := by
  unfold emit at h
  rw [StateT.run_bind] at h
  cases hwrite : (files.write path text).run t with
  | mk result next =>
    rw [hwrite] at h
    cases result with
    | ok done =>
      cases h
      have hok := hfiles.write_ok hwrite
      exact ⟨rfl, fun other => FileTree.entry?_write hok, rfl, FileTree.read_write hok⟩
    | error reason =>
      cases h
      exact ⟨rfl, fun other => hfiles.write_error hwrite, rfl⟩

end CommandLine
end EntityModel
