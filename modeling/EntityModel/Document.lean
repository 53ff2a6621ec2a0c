import EntityModel.Files
import EntityModel.Json.Reader
import EntityModel.Yaml.Reader

/-!
# Loading documents

A document is a JSON or YAML text whose root is an object. The format of a text is told by its first
character that is not white space, that of a file by the extension of its name.
-/

namespace EntityModel

/-- Why there is no document. -/
inductive LoadError where
  | notFound (path : String)
  | unreadable (path reason : String)
  | json (error : Json.Error)
  | yaml (error : Yaml.Error)
  | notObject (found : String)
  deriving DecidableEq, Repr

namespace LoadError

def message : LoadError → String
  | .notFound path => "file not found: " ++ path
  | .unreadable path reason => "cannot read " ++ path ++ ": " ++ reason
  | .json error => "invalid JSON: " ++ error.message
  | .yaml error => "invalid YAML: " ++ error.message
  | .notObject found => "invalid document: expected a mapping at the root, got " ++ found

def exitCode : LoadError → Nat
  | .notFound _ => 3
  | .unreadable _ _ => 3
  | .json _ => 2
  | .yaml _ => 2
  | .notObject _ => 2

end LoadError

namespace Document

inductive Format where
  | json
  | yaml
  deriving DecidableEq, Repr

/-- The format of a text: JSON if it starts, after white space, with a brace or bracket. -/
def formatOfText (text : List Char) : Format :=
  match text.dropWhile Text.isWhiteSpace with
  | '\x7b' :: _ => .json
  | '[' :: _ => .json
  | _ => .yaml

/-- The extension of a file name: what follows its last dot, unless that is its first character. -/
def extension? (name : List Char) : Option (List Char) :=
  if name = ['.', '.'] then none
  else
    let tail := (name.reverse.takeWhile (· ≠ '.')).reverse
    if tail.length + 1 < name.length then some tail else none

def fileName (path : List Char) : List Char := (path.reverse.takeWhile (· ≠ '/')).reverse

/-- The format of a file: YAML if its name has the extension `yaml` or `yml`. -/
def formatOfPath (path : String) : Format :=
  match extension? (fileName path.toList) with
  | some ['y', 'a', 'm', 'l'] => .yaml
  | some ['y', 'm', 'l'] => .yaml
  | _ => .json

/-- The value of a text in a format. -/
def parse (format : Format) (text : String) : Except LoadError Json :=
  match format with
  | .json => (Json.read text).mapError .json
  | .yaml => (Yaml.read text).mapError .yaml

/-- Accepts a value that is an object. -/
def checkRoot (value : Json) : Except LoadError Json :=
  if value.isObject then .ok value else .error (.notObject value.typeName)

def ofText (text : String) : Except LoadError Json := do
  checkRoot (← parse (formatOfText text.toList) text)

/-- The document in a file of which reading gave the content. -/
def ofContent (path : String) (content : Except ReadFault ByteArray) : Except LoadError Json :=
  match content with
  | .error .notFound => .error (.notFound path)
  | .error (.failed reason) => .error (.unreadable path reason)
  | .ok bytes =>
    match String.fromUTF8? bytes with
    | none => .error (.unreadable path "stream did not contain valid UTF-8")
    | some text => do checkRoot (← parse (formatOfPath path) text)

/-- Is the source an address on the web? -/
def isUrl (source : String) : Bool :=
  source.startsWith "http://" || source.startsWith "https://"

variable {m : Type → Type} [Monad m]

/-- Loads the document in a file. -/
def loadFile (files : Files m) (path : String) : m (Except LoadError Json) := do
  return ofContent path (← files.read path)

/-- Loads the document of a source. This is the library without its feature `remote`, which is on by
default: an address on the web is not fetched but counts as not found. With the feature it is
fetched, and a fetch that fails has the exit code of a source that is not found. -/
def load (files : Files m) (source : String) : m (Except LoadError Json) := do
  if isUrl source then return .error (.notFound source) else loadFile files source

end Document

end EntityModel
