import EntityModel.Proofs.CommandLine.Reloading
import EntityModel.Proofs.Document.Formats

/-!
# Ends of table texts

A command takes the white space from the end of a table text, and puts a line feed back when it
prints. No more than that line feed is lost, whatever the names in the text are: its last line is
the end of a table or a comment, and the relationships that an entity owns come in pairs, of which
the second one closes a bracket at the end of its comment (`endsLine_entityText`,
`endsLine_tableText`). A text without any table is empty, and prints as an empty line
(`run_prints_tableText`).
-/

namespace EntityModel

/-! ## Lines -/

namespace Text

/-- A text that ends in a line feed with no white space in front of it. -/
def EndsLine (text : String) : Prop :=
  ∃ front c, text.toList = front ++ [c, '\n'] ∧ isWhiteSpace c = false

namespace EndsLine

variable {text : String}

theorem append (h : EndsLine text) (front : String) : EndsLine (front ++ text) := by
  obtain ⟨cs, c, htext, hc⟩ := h
  refine ⟨front.toList ++ cs, c, ?_, hc⟩
  rw [String.toList_append, htext, List.append_assoc]

/-- The line feed is all that is taken from the end of such a text. -/
theorem trimEnd_append (h : EndsLine text) :
    String.ofList (trimEnd text.toList) ++ "\n" = text := by
  obtain ⟨cs, c, htext, hc⟩ := h
  have htrim : trimEnd text.toList = cs ++ [c] := by
    have hfeed : isWhiteSpace '\n' = true := by decide
    simp [trimEnd, htext, hfeed, hc]
  rw [htrim]
  apply String.toList_inj.1
  rw [String.toList_append, String.toList_ofList, htext, List.append_assoc]
  rfl

end EndsLine

theorem endsLine_intercalate (separator : String) {texts : List String} (hne : texts ≠ [])
    (h : ∀ text ∈ texts, EndsLine text) : EndsLine (separator.intercalate texts) := by
  induction texts with
  | nil => exact absurd rfl hne
  | cons text rest ih =>
    cases rest with
    | nil =>
      rw [String.intercalate_singleton]
      exact h text List.mem_cons_self
    | cons next rest =>
      rw [String.intercalate_cons_cons]
      have hrest := ih (List.cons_ne_nil _ _) fun other hother =>
        h other (List.mem_cons_of_mem _ hother)
      exact hrest.append _

end Text

open Text

/-! ## Tables and comments -/

theorem Entity.endsLine_tableText (e : Entity) : EndsLine e.tableText := by
  have hend : EndsLine ");\n" := ⟨[')'], ';', rfl, by decide⟩
  exact hend.append _

/-- A comment that tells the column of a foreign key ends in a bracket. -/
theorem Relationship.endsLine_comment {r : Relationship}
    (h : r.association.foreignKey.name.isSome = true) : EndsLine r.comment := by
  obtain ⟨name, hname⟩ := Option.isSome_iff_exists.1 h
  have hend : EndsLine (" (foreign key " ++ name ++ ")" ++ "\n") :=
    ⟨(" (foreign key " ++ name).toList, ')', by simp, by decide⟩
  unfold comment
  rw [hname, String.append_assoc]
  exact hend.append _

/-- The two relationships of a binding have one owner. -/
theorem Binding.filter_flatMap_pair (xs : List Binding) (name : String) :
    (xs.flatMap pair).filter (·.owner == name) =
      (xs.filter (·.target == name)).flatMap pair := by
  induction xs with
  | nil => rfl
  | cons x rest ih =>
    rw [List.flatMap_cons, List.filter_append, ih, List.filter_cons]
    by_cases h : x.target = name
    · simp [pair, h]
    · simp [pair, h]

/-- The comments of bindings keep the end of a line at the end of a text. -/
theorem Binding.endsLine_comments {text : String} (h : EndsLine text) (xs : List Binding) :
    EndsLine (text ++ String.join ((xs.flatMap pair).map Relationship.comment)) := by
  induction xs generalizing text with
  | nil => simpa using h
  | cons x rest ih =>
    obtain ⟨hasMany, belongsTo, hpair, hkey⟩ :
        ∃ hasMany belongsTo, x.pair = [hasMany, belongsTo] ∧
          belongsTo.association.foreignKey.name.isSome = true := ⟨_, _, rfl, rfl⟩
    have hcomment := Relationship.endsLine_comment hkey
    have hrest := ih (hcomment.append (text ++ hasMany.comment))
    simpa [hpair, String.append_assoc] using hrest

/-! ## Table texts -/

namespace Registry

variable {r : Registry} {xs : List Binding}

theorem endsLine_entityText (h : r.relationships = xs.flatMap Binding.pair) (e : Entity) :
    EndsLine (r.entityText e) := by
  rw [entityText, owned, h, Binding.filter_flatMap_pair]
  exact Binding.endsLine_comments e.endsLine_tableText _

theorem endsLine_tableText (h : r.relationships = xs.flatMap Binding.pair)
    (hentities : r.entities ≠ []) : EndsLine r.tableText := by
  refine Text.endsLine_intercalate "\n" (by simpa using hentities) ?_
  intro text htext
  obtain ⟨e, -, rfl⟩ := List.mem_map.1 htext
  exact endsLine_entityText h e

/-- The relationships of a document are those of bindings, those that are wired. -/
theorem exists_relationships_eq (document : Json) :
    ∃ xs : List Binding, document.relationships = xs.flatMap Binding.pair :=
  ⟨_, (Handles.wired_bindings (lookup_declareAll_isSome_iff Store.backend document {})).symm⟩

end Registry

namespace CommandLine

/-- **A table text is printed as it is.** Every document has one model. If it has an entity, its
table text without the white space at the end is the table text but for one line feed, so a command
prints the table text; if it has none, the command prints an empty line. -/
theorem run_prints_tableText (document : Json) :
    ∃ registry : Registry, (∀ options, modelOf document options = .ok registry) ∧
      registry.entities.map Entity.name = document.entityNames ∧
      (registry.entities ≠ [] →
        String.ofList (trimEnd registry.tableText.toList) ++ "\n" = registry.tableText) ∧
      ∀ (files : Files (StateM FileTree)) arguments source t after,
        Invocation.ofArguments arguments = .ok (.command ⟨.tables, source, none⟩) →
        (Document.load files source).run t = (.ok document, after) →
        (run files arguments).run t =
          ({ exitCode := 0
             stdout := if registry.entities.isEmpty then "\n" else registry.tableText },
            after) := by
  obtain ⟨xs, hxs⟩ := Registry.exists_relationships_eq document
  have hends := Registry.endsLine_tableText (r := .inStore document) hxs
  refine ⟨.inStore document, modelOf_eq document, Json.names_entities document,
    fun hentities => (hends hentities).trimEnd_append, ?_⟩
  intro files arguments source t after harguments hload
  have hrun := Command.run_printed (c := ⟨.tables, source, none⟩) rfl hload
  rw [run_of_ofArguments files harguments, hrun, Product.printed, Product.text]
  cases hentities : (Registry.inStore document).entities with
  | nil =>
    rw [Registry.tableText, hentities]
    rfl
  | cons e rest =>
    have hne : (Registry.inStore document).entities ≠ [] := by
      rw [hentities]
      exact List.cons_ne_nil _ _
    rw [(hends hne).trimEnd_append]
    rfl

/-- A document whose names end in white space. -/
def spacedDocument : Json :=
  .object [("definitions", .object [("A\u00a0", .object [("properties", .object
    [("a ", .object [("$ref", .string "#/definitions/A\u00a0")])])])])]

theorem run_prints_tableText_spaced :
    (run FileTree.files ["ddl", "a"]).run (.single "a" spacedDocument.render) =
      ({ exitCode := 0
         stdout := "CREATE TABLE \x60A\u00a0\x60 (\n);\n-- A\u00a0 has many A\u00a0\n" ++
           "-- A\u00a0 belongs to A\u00a0 as A\u00a0 (foreign key id)\n" },
        .single "a" spacedDocument.render) := by
  have harguments : Invocation.ofArguments ["ddl", "a"] =
      .ok (.command ⟨.tables, "a", none⟩) := by rfl
  have hload : (Document.load FileTree.files "a").run (.single "a" spacedDocument.render) =
      (.ok spacedDocument, .single "a" spacedDocument.render) := by
    have hread : Json.read spacedDocument.render = .ok spacedDocument := by cbv
    rw [Document.run_load _ _ FileTree.files_faithful, Document.loaded_eq,
      if_neg (by decide +kernel), FileTree.run_read_single,
      Document.ofContent_toUTF8 (Document.not_hasExtension_of_length (by decide))
        (Document.not_hasExtension_of_length (by decide)), Document.parse, hread]
    rfl
  obtain ⟨registry, hmodel, -, -, hprints⟩ := run_prints_tableText spacedDocument
  obtain rfl : .inStore spacedDocument = registry :=
    Except.ok.inj ((modelOf_eq spacedDocument {}).symm.trans (hmodel {}))
  rw [hprints _ _ _ _ _ harguments hload]
  have htext : (Registry.inStore spacedDocument).tableText =
      "CREATE TABLE \x60A\u00a0\x60 (\n);\n-- A\u00a0 has many A\u00a0\n" ++
        "-- A\u00a0 belongs to A\u00a0 as A\u00a0 (foreign key id)\n" := by decide +kernel
  rw [← htext]
  rfl

end CommandLine

end EntityModel
