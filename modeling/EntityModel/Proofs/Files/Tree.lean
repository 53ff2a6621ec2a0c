import EntityModel.Files
import EntityModel.Proofs.Except

/-!
# Writing a file of a tree

A write puts the file where its path asks for it and changes nothing else (`entry?_write`). That
place is no directory, so every path that led somewhere still leads there (`foldlM_step_insert`),
and reading the path that was written gives what was written (`read_write`).
-/

namespace EntityModel.FileTree

variable {t after : FileTree} {path : String} {place : List String}

/-! ## Entries -/

theorem lookup_map_replace (entries : List (List String × FileEntry)) (place other : List String)
    (entry : FileEntry) :
    (entries.map fun (p, e) => if p == place then (p, entry) else (p, e)).lookup other =
      if other = place then (entries.lookup place).map fun _ => entry
      else entries.lookup other := by
  induction entries with
  | nil => simp
  | cons first rest ih =>
    obtain ⟨p, e⟩ := first
    by_cases hp : p = place
    · subst hp
      by_cases ho : other = p
      · subst ho
        simp
      · simp [ho, List.lookup_cons, beq_eq_false_iff_ne.2 ho] at ih ⊢
        exact ih
    · by_cases ho : other = p
      · subst ho
        simp [hp]
      · have hplace : (place == p) = false := beq_eq_false_iff_ne.2 fun h => hp h.symm
        simp [hp, List.lookup_cons, beq_eq_false_iff_ne.2 ho, hplace] at ih ⊢
        exact ih

@[simp] theorem workingDirectory_insert (t : FileTree) (place : List String) (entry : FileEntry) :
    (t.insert place entry).workingDirectory = t.workingDirectory := by
  unfold insert
  split
  · rfl
  · rfl

theorem isDirectory_iff (t : FileTree) (place : List String) :
    t.isDirectory place = true ↔ t.entry? place = some .directory := by
  unfold isDirectory
  split
  · next h => simp [h]
  · next h => simpa using h

/-- What is no directory does not hold the working directory. -/
theorem isPrefixOf_of_not_directory (hfile : t.isDirectory place = false) :
    place.isPrefixOf t.workingDirectory = false := by
  rw [Bool.eq_false_iff]
  intro hprefix
  have hentry : t.entry? place = some .directory := if_pos hprefix
  rw [(isDirectory_iff t place).2 hentry] at hfile
  contradiction

theorem entry?_insert (hfile : t.isDirectory place = false) (entry : FileEntry)
    (other : List String) :
    entry? (t.insert place entry) other =
      if other = place then some entry else t.entry? other := by
  have hplace := isPrefixOf_of_not_directory hfile
  unfold entry?
  rw [workingDirectory_insert]
  by_cases hother : other.isPrefixOf t.workingDirectory = true
  · have hne : other ≠ place := fun heq => by
      rw [heq, hplace] at hother
      contradiction
    rw [if_pos hother, if_neg hne, if_pos hother]
  rw [if_neg hother, if_neg hother]
  unfold insert
  split
  next h =>
    obtain ⟨found, hfound⟩ : ∃ found, t.entries.lookup place = some found := by
      rw [← Option.isSome_iff_exists, List.lookup_isSome_iff]
      simpa using h
    rw [lookup_map_replace, hfound]
    rfl
  next h =>
    have hnone : t.entries.lookup place = none := by
      rw [List.lookup_eq_none_iff]
      intro p hp
      have hany := mt (List.any_eq_true.2 ⟨p, hp, ·⟩) h
      simpa using fun heq => hany (by simp [heq])
    rw [List.lookup_append]
    by_cases ho : other = place
    · subst ho
      simp [hnone]
    · simp [ho, List.lookup_cons, beq_eq_false_iff_ne.2 ho]

/-! ## Paths -/

section Insert

variable (hfile : t.isDirectory place = false) (content : ByteArray)
include hfile

theorem isDirectory_insert (other : List String) :
    (t.insert place (.file content)).isDirectory other = t.isDirectory other := by
  rw [Bool.eq_iff_iff, isDirectory_iff, isDirectory_iff, entry?_insert hfile]
  by_cases h : other = place
  · have hnot : t.entry? place ≠ some .directory := fun heq => by
      rw [(isDirectory_iff t place).2 heq] at hfile
      contradiction
    simpa [h] using hnot
  · rw [if_neg h]

theorem step_insert {p q : List String} {part : String} (h : t.step p part = .ok q) :
    (t.insert place (.file content)).step p part = .ok q := by
  have hkept : ∀ other, (t.entry? other).isSome →
      ( entry? (t.insert place (.file content)) other).isSome := by
    intro other hsome
    rw [entry?_insert hfile]
    split
    · rfl
    · exact hsome
  unfold step at h ⊢
  rw [isDirectory_insert hfile]
  grind

theorem foldlM_step_insert {p q : List String} {parts : List String}
    (h : parts.foldlM t.step p = .ok q) :
    parts.foldlM (t.insert place (.file content)).step p = .ok q := by
  induction parts generalizing p with
  | nil => exact h
  | cons part rest ih =>
    rw [List.foldlM_cons] at h ⊢
    obtain ⟨next, hstep, hrest⟩ := Except.bind_eq_ok.1 h
    rw [step_insert hfile content hstep, Except.ok_bind]
    exact ih hrest

end Insert

theorem start_insert (t : FileTree) (place : List String) (entry : FileEntry) (path : String) :
    (t.insert place entry).start path = t.start path := by
  unfold start split
  rw [workingDirectory_insert]

section Start

variable (hempty : path ≠ "") (hshort : Text.byteCount path.toList < 4096)
include hempty hshort

theorem start_eq (t : FileTree) : t.start path = .ok (t.split path) := by
  unfold start
  rw [if_neg (by simpa using hempty), if_neg (Nat.not_le.2 hshort)]

/-- A path that is one name starts at the working directory. -/
theorem start_of_splitOn (t : FileTree) (hparts : path.splitOn "/" = [path]) :
    t.start path = .ok (t.workingDirectory, [path]) := by
  rw [start_eq hempty hshort, split, hparts]
  split
  next h => exact absurd (List.cons.inj h).1 hempty
  next => rfl

/-- A path with a slash in front starts at the root. -/
theorem start_of_slash (t : FileTree) {parts : List String}
    (hparts : path.splitOn "/" = "" :: parts) : t.start path = .ok ([], parts) := by
  rw [start_eq hempty hshort, split, hparts]
  rfl

end Start

/-- Without its empty parts at the end, a list of parts is shorter unless its last part is not
empty. -/
theorem trimmed_eq {parts : List String} {name : String}
    (hlast : (parts.reverse.dropWhile (· = "")).reverse.getLast? = some name)
    (hlength : parts.length ≤ (parts.reverse.dropWhile (· = "")).reverse.length) :
    parts = parts.dropLast ++ [name] ∧ (parts.reverse.dropWhile (· = "")).reverse = parts ∧
      name ≠ "" := by
  have hall : parts.reverse.dropWhile (· = "") = parts.reverse := by
    apply (List.dropWhile_suffix _).eq_of_length_le
    simpa using hlength
  rw [hall, List.reverse_reverse] at hlast
  have hname : name ≠ "" := by
    have hfirst := List.head?_dropWhile_not (fun part : String => decide (part = "")) parts.reverse
    rw [hall, List.head?_reverse, hlast] at hfirst
    simpa using hfirst
  obtain ⟨init, rfl⟩ := List.getLast?_eq_some_iff.1 hlast
  refine ⟨?_, by rw [hall, List.reverse_reverse], hname⟩
  rw [List.dropLast_concat]

/-- Where a path asks to create a file, its parts lead to the directory of the file, and the last
one is its name there. -/
theorem exists_of_target (h : t.target path = .ok place) :
    ∃ first parts name dir, t.start path = .ok (first, parts ++ [name]) ∧
      parts.foldlM t.step first = .ok dir ∧ place = dir ++ [name] ∧
      t.isDirectory dir = true ∧ t.isDirectory place = false ∧
      name ≠ "" ∧ name ≠ "." ∧ name ≠ ".." ∧ isTooLong name = false := by
  unfold target at h
  obtain ⟨⟨first, parts⟩, hstart, h⟩ := Except.bind_eq_ok.1 h
  obtain ⟨dir, hwalk, h⟩ := Except.bind_eq_ok.1 h
  split at h
  · cases h
  rename_i hdir
  split at h
  · cases h
  rename_i name hlast
  split at h
  · cases h
  rename_i hname
  split at h
  · cases h
  rename_i hlong
  split at h
  · cases h
  rename_i hfile
  cases h
  simp only [Bool.or_eq_true, decide_eq_true_eq, not_or, Nat.not_lt] at hname
  obtain ⟨⟨hlength, hdot⟩, hdots⟩ := hname
  obtain ⟨hparts, htrimmed, hempty⟩ := trimmed_eq hlast hlength
  rw [htrimmed] at hwalk
  exact ⟨first, parts.dropLast, name, dir, by rw [← hparts, hstart], hwalk, rfl,
    by simpa using hdir, by simpa using hfile, hempty, hdot, hdots, by simpa using hlong⟩

/-! ## What a write does -/

theorem exists_of_write {content : String} (h : t.write path content = .ok after) :
    ∃ place, t.target path = .ok place ∧ after = t.insert place (.file content.toUTF8) := by
  obtain ⟨place, htarget, hafter⟩ := Except.map_eq_ok.1 h
  exact ⟨place, htarget, hafter.symm⟩

/-- A write changes nothing but what its path asks for. -/
theorem entry?_write {content : String} (h : t.write path content = .ok after)
    {other : List String} (hother : t.target path ≠ .ok other) :
    after.entry? other = t.entry? other := by
  obtain ⟨place, htarget, rfl⟩ := exists_of_write h
  obtain ⟨-, -, -, -, -, -, -, -, hfile, -⟩ := exists_of_target htarget
  rw [entry?_insert hfile, if_neg]
  rintro rfl
  exact hother htarget

/-- What was written is what the path gives afterwards. -/
theorem read_write {content : String} (h : t.write path content = .ok after) :
    after.read path = .ok content.toUTF8 := by
  obtain ⟨place, htarget, rfl⟩ := exists_of_write h
  obtain ⟨first, parts, name, dir, hstart, hwalk, rfl, hdir, hfile, hempty, hdot, hdots, hlong⟩ :=
    exists_of_target htarget
  clear h
  generalize content.toUTF8 = bytes
  have hentry := entry?_insert hfile (.file bytes) (dir ++ [name])
  rw [if_pos rfl] at hentry
  have hwalk := foldlM_step_insert hfile bytes hwalk
  have hstep : (t.insert (dir ++ [name]) (.file bytes)).step dir name = .ok (dir ++ [name]) := by
    unfold step
    rw [isDirectory_insert hfile, hdir]
    simp [hempty, hdot, hdots, hlong, hentry]
  have hresolve : (t.insert (dir ++ [name]) (.file bytes)).resolve path = .ok (dir ++ [name]) := by
    unfold resolve
    rw [start_insert, hstart, Except.ok_bind]
    dsimp only
    rw [List.foldlM_append, hwalk, Except.ok_bind, List.foldlM_cons, hstep]
    rfl
  simp [read, hresolve, hentry]

end EntityModel.FileTree

namespace EntityModel

/-- Operations that keep a tree as files are kept: reading changes nothing, a write that succeeds
is that of the tree, and one that fails for any reason spoils at most the file it was about. -/
structure Files.Faithful (files : Files (StateM FileTree)) : Prop where
  read_keeps (path : String) (t : FileTree) : ((files.read path).run t).2 = t
  write_ok {path content : String} {t after : FileTree}
    (h : (files.write path content).run t = (.ok (), after)) : t.write path content = .ok after
  write_error {path content reason : String} {t after : FileTree}
    (h : (files.write path content).run t = (.error reason, after)) {other : List String}
    (hother : t.target path ≠ .ok other) : after.entry? other = t.entry? other

theorem FileTree.write_files (t : FileTree) (path content : String) :
    (FileTree.files.write path content).run t =
      match t.write path content with
      | .ok after => (.ok (), after)
      | .error fault => (.error fault.message, t) := by
  cases h : t.write path content with
  | error fault =>
    simp [files, h]
    rfl
  | ok after =>
    simp [files, h]
    rfl

theorem FileTree.files_faithful : FileTree.files.Faithful where
  read_keeps _ _ := rfl
  write_ok {path content t after} h := by
    rw [FileTree.write_files] at h
    cases hwrite : t.write path content <;> rw [hwrite] at h <;> cases h
    rfl
  write_error {path content reason t after} h other hother := by
    rw [FileTree.write_files] at h
    cases hwrite : t.write path content <;> rw [hwrite] at h <;> cases h
    rfl

end EntityModel
