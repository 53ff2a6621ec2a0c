import EntityModel.Proofs.CommandLine.Outcomes
import EntityModel.Proofs.Json.Bounds

/-!
# Formats of files and texts

A file tells its format by the extension of its name (`formatOfPath_eq_yaml_iff`), a text by its
first character that is not white space. The two meet in the first character that the reader of JSON
takes for a value: an object is only read from a brace behind blanks of JSON
(`exists_brace_of_read`), and these are white space, so the text of such a document is taken for
JSON as well (`formatOfText_of_read`). A text that starts with a brace or bracket is taken for JSON
anyway, whatever white space is in front of it (`ofText_of_loadFile`).
-/

namespace EntityModel

theorem fromUTF8?_toUTF8 (text : String) : String.fromUTF8? text.toUTF8 = some text := by
  unfold String.fromUTF8?
  rw [String.toUTF8_eq_toByteArray, dif_pos text.isValidUTF8]
  rfl

/-! ## The first character of an object -/

namespace Json

namespace Reader

/-- What is skipped in front of a value is skipped as white space too. -/
theorem dropWhile_of_skipBlanks {cs rest : List Char} {c : Char} (h : skipBlanks cs = c :: rest)
    (hc : Text.isWhiteSpace c = false) : cs.dropWhile Text.isWhiteSpace = c :: rest := by
  have hblanks : ∀ b ∈ cs.takeWhile Text.isJsonBlank, Text.isWhiteSpace b = true := by
    intro b hb
    exact Text.isWhiteSpace_of_isJsonBlank (List.mem_takeWhile_imp hb)
  calc cs.dropWhile Text.isWhiteSpace
      = (cs.takeWhile Text.isJsonBlank ++ skipBlanks cs).dropWhile Text.isWhiteSpace := by
        rw [skipBlanks, List.takeWhile_append_dropWhile]
    _ = c :: rest := by
        rw [List.dropWhile_append_of_pos hblanks, h, List.dropWhile_cons_of_neg (by simp [hc])]

/-- The first character of a value tells whether it is an object. -/
theorem exists_brace_of_value {fuel depth : Nat} {cs rest : List Char} {j : Json}
    (h : value fuel depth cs = .ok (j, rest)) (hobject : j.isObject = true) :
    ∃ tail, skipBlanks cs = '\x7b' :: tail := by
  cases fuel with
  | zero => cases h
  | succ fuel =>
    rw [value] at h
    split at h
    next => cases h
    next c tail hcs =>
      split at h
      case h_7 => exact ⟨tail, hcs⟩
      case h_6 =>
        split at h
        · cases h
        · obtain ⟨_, -, heq⟩ := Except.bind_eq_ok.1 h
          cases heq
          cases hobject
      case h_8 =>
        split at h
        · obtain ⟨_, -, heq⟩ := Except.bind_eq_ok.1 h
          cases heq
          cases hobject
        · cases h
      -- the literals, strings and negative numbers
      all_goals
        obtain ⟨_, -, heq⟩ := Except.bind_eq_ok.1 h
        cases heq
        cases hobject

end Reader

theorem exists_brace_of_read {text : String} {j : Json} (h : read text = .ok j)
    (hobject : j.isObject = true) : ∃ tail, Reader.skipBlanks text.toList = '\x7b' :: tail := by
  obtain ⟨rest, hvalue⟩ := exists_value_of_read h
  exact Reader.exists_brace_of_value hvalue hobject

end Json

/-! ## Extensions -/

namespace Document

/-- The path ends in a dot and the extension, and the character in front of them is in the same
name. -/
def HasExtension (path extension : String) : Prop :=
  ∃ front c, c ≠ '/' ∧ path.toList = front ++ c :: '.' :: extension.toList

theorem takeWhile_ne_append {c : Char} {front : List Char} (h : c ∉ front) (rest : List Char) :
    (front ++ rest).takeWhile (· ≠ c) = front ++ rest.takeWhile (· ≠ c) :=
  List.takeWhile_append_of_pos fun _ ha => decide_eq_true fun heq => h (heq ▸ ha)

theorem exists_fileName (path : List Char) :
    '/' ∉ fileName path ∧ ∃ folder, path = folder ++ fileName path := by
  unfold fileName
  refine ⟨fun h => ?_, (path.reverse.dropWhile (· ≠ '/')).reverse, ?_⟩
  · simpa using List.mem_takeWhile_imp (List.mem_reverse.1 h)
  · rw [← List.reverse_append, List.takeWhile_append_dropWhile, List.reverse_reverse]

/-- Behind the start of a text without a character stand that character and another one, if two or
more are left. -/
theorem exists_eq_takeWhile_append (c : Char) (cs : List Char)
    (h : (cs.takeWhile (· ≠ c)).length + 1 < cs.length) :
    ∃ next rest, cs = cs.takeWhile (· ≠ c) ++ c :: next :: rest := by
  have hsplit := List.takeWhile_append_dropWhile (p := (· ≠ c)) (l := cs)
  have hsum := congrArg List.length hsplit
  have hhead := List.head?_dropWhile_not (fun d : Char => decide (d ≠ c)) cs
  rw [List.length_append] at hsum
  cases hrest : cs.dropWhile (· ≠ c) with
  | nil =>
    rw [hrest, List.length_nil] at hsum
    omega
  | cons d rest =>
    rw [hrest] at hsplit hsum hhead
    obtain rfl : d = c := by simpa using hhead
    cases rest with
    | nil =>
      rw [List.length_singleton] at hsum
      omega
    | cons next rest => exact ⟨next, rest, hsplit.symm⟩

theorem exists_of_extension? {name extension : List Char} (h : extension? name = some extension) :
    ∃ stem c, name = stem ++ c :: '.' :: extension := by
  unfold extension? at h
  split at h
  · cases h
  dsimp only at h
  split at h
  next hlength =>
    cases h
    obtain ⟨c, stem, hname⟩ :=
      exists_eq_takeWhile_append '.' name.reverse (by simpa using hlength)
    refine ⟨stem.reverse, c, ?_⟩
    generalize name.reverse.takeWhile (· ≠ '.') = tail at hname ⊢
    rw [← List.reverse_inj, hname]
    simp
  next => cases h

theorem extension?_fileName_iff {path extension : List Char} (hne : extension ≠ [])
    (hslash : '/' ∉ extension) (hdot : '.' ∉ extension) :
    extension? (fileName path) = some extension ↔
      ∃ front c, c ≠ '/' ∧ path = front ++ c :: '.' :: extension := by
  constructor
  · intro h
    obtain ⟨hname, folder, hpath⟩ := exists_fileName path
    obtain ⟨stem, c, heq⟩ := exists_of_extension? h
    rw [heq] at hname hpath
    refine ⟨folder ++ stem, c, fun hc => hname (by simp [hc]), ?_⟩
    rw [hpath, List.append_assoc]
  · rintro ⟨front, c, hc, rfl⟩
    have hreverse (front : List Char) : (front ++ c :: '.' :: extension).reverse =
        extension.reverse ++ '.' :: c :: front.reverse := by simp
    -- the name goes back over the extension, the dot and the character in front of it
    have hname : fileName (front ++ c :: '.' :: extension) =
        fileName front ++ c :: '.' :: extension := by
      rw [fileName, hreverse, takeWhile_ne_append (by simpa using hslash)]
      simp [fileName, hc]
    have htail : ((fileName front ++ c :: '.' :: extension).reverse.takeWhile (· ≠ '.')).reverse =
        extension := by
      rw [hreverse, takeWhile_ne_append (by simpa using hdot)]
      simp
    have hdots : fileName front ++ c :: '.' :: extension ≠ ['.', '.'] := by
      intro heq
      have hlength := congrArg List.length heq
      have hpos := List.length_pos_iff.2 hne
      simp at hlength
      omega
    have hlength : extension.length + 1 < (fileName front ++ c :: '.' :: extension).length := by
      simp
      omega
    rw [hname, extension?, if_neg hdots]
    dsimp only
    rw [htail, if_pos hlength]

theorem formatOfPath_eq_yaml_iff {path : String} :
    formatOfPath path = .yaml ↔ HasExtension path "yaml" ∨ HasExtension path "yml" := by
  have hyaml : extension? (fileName path.toList) = some "yaml".toList ↔ HasExtension path "yaml" :=
    extension?_fileName_iff (by decide) (by decide) (by decide)
  have hyml : extension? (fileName path.toList) = some "yml".toList ↔ HasExtension path "yml" :=
    extension?_fileName_iff (by decide) (by decide) (by decide)
  rw [← hyaml, ← hyml]
  unfold formatOfPath
  split
  next h => exact iff_of_true rfl (.inl h)
  next h => exact iff_of_true rfl (.inr h)
  next hneither hnor =>
    refine iff_of_false nofun ?_
    rintro (h | h)
    · exact hneither h
    · exact hnor h

/-! ## Formats -/

theorem formatOfText_of_dropWhile {cs rest : List Char} {c : Char}
    (h : cs.dropWhile Text.isWhiteSpace = c :: rest) (hc : c = '\x7b' ∨ c = '[') :
    formatOfText cs = .json := by
  unfold formatOfText
  rw [h]
  rcases hc with rfl | rfl
  · rfl
  · rfl

/-- A text from which JSON reads an object is taken for JSON. -/
theorem formatOfText_of_read {text : String} {j : Json} (h : Json.read text = .ok j)
    (hobject : j.isObject = true) : formatOfText text.toList = .json := by
  obtain ⟨tail, htail⟩ := Json.exists_brace_of_read h hobject
  exact formatOfText_of_dropWhile (Json.Reader.dropWhile_of_skipBlanks htail (by decide)) (.inl rfl)

theorem checkRoot_eq_ok {value document : Json} (h : checkRoot value = .ok document) :
    value = document ∧ document.isObject = true := by
  unfold checkRoot at h
  split at h
  next hobject =>
    cases h
    exact ⟨rfl, hobject⟩
  next => cases h

theorem ofContent_toUTF8 {path : String} (hyaml : ¬ HasExtension path "yaml")
    (hyml : ¬ HasExtension path "yml") (text : String) :
    ofContent path (.ok text.toUTF8) = (do checkRoot (← parse .json text)) := by
  have hformat : formatOfPath path = .json := by
    cases h : formatOfPath path with
    | json => rfl
    | yaml => exact ((formatOfPath_eq_yaml_iff.1 h).elim hyaml hyml).elim
  simp only [ofContent, fromUTF8?_toUTF8, hformat]

/-- A text that is a document when it is read as JSON is that document. -/
theorem ofText_of_parse {text : String} {document : Json}
    (h : (do checkRoot (← parse .json text)) = .ok document) : ofText text = .ok document := by
  obtain ⟨value, hparse, hroot⟩ := Except.bind_eq_ok.1 h
  obtain ⟨rfl, hobject⟩ := checkRoot_eq_ok hroot
  have hread : Json.read text = .ok value := Except.mapError_eq_ok.1 hparse
  unfold ofText
  rw [formatOfText_of_read hread hobject]
  exact h

/-- **No JSON document is taken for YAML.** A file whose name has neither extension of YAML is read
as JSON; if that gives a document, its text alone gives the same one. For a text that starts, after
white space, with a brace or bracket the file and the text give the same result, also if it is an
error. -/
theorem ofText_of_loadFile {files : Files (StateM FileTree)} {path text : String}
    {t after : FileTree} (hread : (files.read path).run t = (.ok text.toUTF8, after))
    (hyaml : ¬ HasExtension path "yaml") (hyml : ¬ HasExtension path "yml") :
    ∃ result, (loadFile files path).run t = (result, after) ∧
      (∀ document, result = .ok document → ofText text = .ok document) ∧
      ∀ c rest, text.toList.dropWhile Text.isWhiteSpace = c :: rest → c = '\x7b' ∨ c = '[' →
        ofText text = result := by
  have hcontent := ofContent_toUTF8 hyaml hyml text
  refine ⟨ofContent path (.ok text.toUTF8), ?_, ?_, ?_⟩
  · unfold loadFile
    rw [StateT.run_bind, hread]
    rfl
  · intro document hdocument
    rw [hcontent] at hdocument
    exact ofText_of_parse hdocument
  · intro c rest htext hc
    rw [hcontent, ofText, formatOfText_of_dropWhile htext hc]

theorem not_hasExtension_of_length {path extension : String}
    (h : path.length ≤ extension.length + 1) : ¬ HasExtension path extension := by
  rintro ⟨front, c, -, hpath⟩
  have hlength := congrArg List.length hpath
  rw [List.length_append, List.length_cons, List.length_cons, String.length_toList,
    String.length_toList] at hlength
  omega

/-- A document behind blanks. -/
theorem ofText_of_loadFile_blanks :
    let t := FileTree.single "a" "\t \x7b\x7d"
    (FileTree.files.read "a").run t = (.ok "\t \x7b\x7d".toUTF8, t) ∧
      ¬ HasExtension "a" "yaml" ∧ ¬ HasExtension "a" "yml" ∧
      (loadFile FileTree.files "a").run t = (.ok (.object []), t) ∧
      ofText "\t \x7b\x7d" = .ok (.object []) := by
  intro t
  have hread := FileTree.run_read_single "\t \x7b\x7d"
  have hyaml : ¬ HasExtension "a" "yaml" := not_hasExtension_of_length (by decide)
  have hyml : ¬ HasExtension "a" "yml" := not_hasExtension_of_length (by decide)
  have htext : ofText "\t \x7b\x7d" = .ok (.object []) := by rfl
  obtain ⟨result, hload, -, hsame⟩ :=
    @ofText_of_loadFile FileTree.files "a" "\t \x7b\x7d" t t hread hyaml hyml
  have hresult : ofText "\t \x7b\x7d" = result :=
    hsame '\x7b' ['\x7d'] (by decide) (.inl rfl)
  rw [← hresult, htext] at hload
  exact ⟨hread, hyaml, hyml, hload, htext⟩

end Document

end EntityModel
