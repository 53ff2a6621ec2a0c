import EntityModel.Text.Bytes

/-!
# Files

What the library asks of a file system, in any monad, and a file system that is a value: a tree of
files and directories with a working directory. Paths are read as a system reads them: they start at
the root if a slash is in front and else at the working directory, every part but the last must be a
directory, `.` and `..` are steps, and a slash at the end asks for a directory. A path has less than
4096 bytes, and each of its names at most 255.
-/

namespace EntityModel

/-- Why a file was not read. -/
inductive ReadFault where
  | notFound
  | failed (reason : String)
  deriving DecidableEq, Repr

/-- The file operations of a monad. -/
structure Files (m : Type → Type) where
  read : String → m (Except ReadFault ByteArray)
  /-- Creates or replaces a file; an error is its reason. -/
  write : String → String → m (Except String Unit)

/-- Why a step along a path fails. -/
inductive PathFault where
  | notFound
  | notDirectory
  | isDirectory
  | nameTooLong
  deriving DecidableEq, Repr

def PathFault.message : PathFault → String
  | .notFound => "No such file or directory (os error 2)"
  | .notDirectory => "Not a directory (os error 20)"
  | .isDirectory => "Is a directory (os error 21)"
  | .nameTooLong => "File name too long (os error 36)"

inductive FileEntry where
  | file (content : ByteArray)
  | directory

/-- Files and directories by their paths from the root, each after the directory that holds it. -/
structure FileTree where
  /-- The path of the working directory. It and the directories that hold it have no entries. -/
  workingDirectory : List String := ["work"]
  entries : List (List String × FileEntry) := []

namespace FileTree

def entry? (t : FileTree) (path : List String) : Option FileEntry :=
  if path.isPrefixOf t.workingDirectory then some .directory else t.entries.lookup path

def insert (t : FileTree) (path : List String) (entry : FileEntry) : FileTree :=
  if t.entries.any (·.1 == path) then
    { t with entries := t.entries.map fun (p, e) => if p == path then (p, entry) else (p, e) }
  else { t with entries := t.entries ++ [(path, entry)] }

def isDirectory (t : FileTree) (path : List String) : Bool :=
  match t.entry? path with
  | some .directory => true
  | _ => false

/-- Is the name longer than a directory can hold? -/
def isTooLong (name : String) : Bool := 255 < Text.byteCount name.toList

/-- One step from a place. The root is its own parent. -/
def step (t : FileTree) (place : List String) (part : String) : Except PathFault (List String) :=
  if !t.isDirectory place then .error .notDirectory
  else if part = "" || part = "." then .ok place
  else if part = ".." then .ok place.dropLast
  else if isTooLong part then .error .nameTooLong
  else if (t.entry? (place ++ [part])).isSome then .ok (place ++ [part])
  else .error .notFound

/-- The place where a path starts, and its parts. -/
def split (t : FileTree) (path : String) : List String × List String :=
  match path.splitOn "/" with
  | "" :: parts => ([], parts)
  | parts => (t.workingDirectory, parts)

/-- Where a path starts and its parts, if it is one that a system takes. -/
def start (t : FileTree) (path : String) : Except PathFault (List String × List String) :=
  if path.isEmpty then .error .notFound
  else if 4096 ≤ Text.byteCount path.toList then .error .nameTooLong
  else .ok (t.split path)

/-- Where a path leads. -/
def resolve (t : FileTree) (path : String) : Except PathFault (List String) := do
  let (place, parts) ← t.start path
  parts.foldlM t.step place

def read (t : FileTree) (path : String) : Except ReadFault ByteArray :=
  match t.resolve path with
  | .ok place =>
    match t.entry? place with
    | some (.file content) => .ok content
    | _ => .error (.failed PathFault.isDirectory.message)
  | .error _ => .error .notFound

/-- Where a path asks to create a file: everything but its last part must be there, and no slash may
follow it. -/
def target (t : FileTree) (path : String) : Except PathFault (List String) := do
  let (place, parts) ← t.start path
  let names := (parts.reverse.dropWhile (· = "")).reverse
  let place ← names.dropLast.foldlM t.step place
  if !t.isDirectory place then .error .notDirectory
  else
    match names.getLast? with
    | none => .error .isDirectory
    | some name =>
      if names.length < parts.length || name = "." || name = ".." then .error .isDirectory
      else if isTooLong name then .error .nameTooLong
      else if t.isDirectory (place ++ [name]) then .error .isDirectory
      else .ok (place ++ [name])

def write (t : FileTree) (path content : String) : Except PathFault FileTree :=
  (t.target path).map fun place => t.insert place (.file content.toUTF8)

/-- Follows a part of a path from a directory, and creates the directory there if there is none. -/
def enter (t : FileTree) (place : List String) (part : String) : FileTree × List String :=
  if part = ".." then (t, place.dropLast)
  else
    let place := place ++ [part]
    (if (t.entry? place).isSome then t else t.insert place .directory, place)

/-- Adds an entry and the directories on the way to it, those that `..` leaves again too. -/
def add (t : FileTree) (path : String) (entry : FileEntry) : FileTree :=
  let (place, parts) := t.split path
  let names := parts.filter fun part => part ≠ "" && part ≠ "."
  let (t, parent) := names.dropLast.foldl (fun (t, place) part => t.enter place part) (t, place)
  match names.getLast? with
  | some name => if name = ".." then t else t.insert (parent ++ [name]) entry
  | none => t

/-- The file operations on a tree. -/
def files : Files (StateM FileTree) where
  read path := do return (← get).read path
  write path content := do
    match (← get).write path content with
    | .ok t =>
      set t
      return .ok ()
    | .error fault => return .error fault.message

end FileTree

end EntityModel
