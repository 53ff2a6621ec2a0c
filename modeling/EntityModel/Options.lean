import EntityModel.Json.Skip
import EntityModel.Json.Writer
import EntityModel.Text.Shown

/-!
# Options of an initialization

Options are written as an object, whose unknown fields are ignored, or as an array of at most the
one option there is. An option that is not given has its default.
-/

namespace EntityModel

/-- What a backend is asked to do when it synchronizes. -/
structure SyncOptions where
  /-- Drop and create again what exists already. -/
  force : Bool := false
  deriving DecidableEq, Repr

/-- How a registry is initialized. -/
structure InitOptions where
  /-- Whether the last synchronization is forced. -/
  autosync : Bool := true
  deriving DecidableEq, Repr

def SyncOptions.toJson (o : SyncOptions) : Json := .object [("force", .bool o.force)]

namespace InitOptions

def toJson (o : InitOptions) : Json := .object [("autosync", .bool o.autosync)]

/-- The options of the synchronization that ends an initialization. -/
def syncOptions (o : InitOptions) : SyncOptions := ⟨o.autosync⟩

open Json Json.Reader

/-- A number as a message about its kind names it. -/
def numberName : Number → String
  | .int n => "integer \x60" ++ toString n ++ "\x60"
  | .float x => "floating point \x60" ++ x.text ++ "\x60"

/-- Stops at a value that is not of the expected kind, behind it unless it is an array or an
object. -/
def stopWrongType {α : Type} (expected : String) (cs : List Char) : Except Stop α :=
  match cs with
  | [] => stopAt .endInValue []
  | c :: rest =>
    match c with
    | 'n' => do
      let rest ← ident ['u', 'l', 'l'] rest
      stopAt (.wrongType "null" expected) rest
    | 't' => do
      let rest ← ident ['r', 'u', 'e'] rest
      stopAt (.wrongType "boolean \x60true\x60" expected) rest
    | 'f' => do
      let rest ← ident ['a', 'l', 's', 'e'] rest
      stopAt (.wrongType "boolean \x60false\x60" expected) rest
    | '-' => do
      let (n, rest) ← number true rest
      stopAt (.wrongType (numberName n) expected) rest
    | '"' => do
      let (s, rest) ← string (rest.length + 1) rest
      stopAt (.wrongType ("string " ++ Text.shown s) expected) rest
    | '[' => stopAt (.wrongType "sequence" expected) (c :: rest)
    | '\x7b' => stopAt (.wrongType "map" expected) (c :: rest)
    | _ =>
      if c.isDigit then do
        let (n, rest) ← number false (c :: rest)
        stopAt (.wrongType (numberName n) expected) rest
      else stopIn .expectedValue (c :: rest)

def readBool (cs : List Char) : Except Stop (Bool × List Char) :=
  match skipBlanks cs with
  | 't' :: rest => do
    let rest ← ident ['r', 'u', 'e'] rest
    .ok (true, rest)
  | 'f' :: rest => do
    let rest ← ident ['a', 'l', 's', 'e'] rest
    .ok (false, rest)
  | cs => stopWrongType "a boolean" cs

/-- Reads the end of an array whose items are all read. -/
def readItemsEnd (cs : List Char) : Except Stop (List Char) :=
  match skipBlanks cs with
  | [] => stopAt .endInList []
  | ']' :: rest => .ok rest
  | ',' :: rest =>
    match skipBlanks rest with
    | ']' :: rest => stopIn .trailingComma (']' :: rest)
    | cs => stopIn .trailingCharacters cs
  | cs => stopIn .trailingCharacters cs

/-- Reads the options from an array, after its bracket. -/
def readItems (cs : List Char) : Except Stop (InitOptions × List Char) := do
  match ← nextItem true cs with
  | .done rest => .ok (⟨true⟩, rest)
  | .more cs =>
    let (autosync, rest) ← readBool cs
    let rest ← readItemsEnd rest
    .ok (⟨autosync⟩, rest)

/-- The place at which an object with a repeated field is refused. -/
def repeatedFieldEnd (cs : List Char) : List Char :=
  match skipBlanks cs with
  | '\x7d' :: rest => rest
  | cs => cs

/-- Reads the options from an object, after its brace or one of its fields. The fuel is the number
of characters left. -/
def readFields : (fuel : Nat) → (autosync : Option Bool) → (first : Bool) → List Char →
    Except Stop (InitOptions × List Char)
  | 0, _, _, cs => stopAt .recursionLimit cs
  | fuel + 1, autosync, first, cs => do
    match ← nextKey first cs with
    | .done rest => .ok (⟨autosync.getD true⟩, rest)
    | .more cs =>
      let (key, rest) ← string (cs.length + 1) cs
      if key = "autosync" then
        if autosync.isSome then stopAt (.duplicateField key) (repeatedFieldEnd rest)
        else
          let rest ← colon rest
          let (value, rest) ← readBool rest
          readFields fuel (some value) false rest
      else
        let rest ← colon rest
        let rest ← Skip.value (2 * rest.length + 2) rest
        readFields fuel autosync false rest

def reader (cs : List Char) : Except Stop (InitOptions × List Char) :=
  match skipBlanks cs with
  | '[' :: rest => readItems rest
  | '\x7b' :: rest => readFields (rest.length + 1) none true rest
  | cs => stopWrongType "struct InitOptions" cs

def read (text : String) : Except Json.Error InitOptions := readWith reader text.toList

end InitOptions

end EntityModel
