import EntityModel.Backend.Store
import EntityModel.CommandLine.Arguments
import EntityModel.Document
import EntityModel.TableText
import EntityModel.Text.WhiteSpace

/-!
# Commands

A command loads a document, makes its model in a store that is then dropped, and prints it or writes
it to a file. A table text loses the white space at its end; what is printed, but not what is
written to a file, ends in a line break.
-/

namespace EntityModel.CommandLine

/-- What a run leaves behind, apart from files. -/
structure Outcome where
  exitCode : Nat
  stdout : String := ""
  stderr : String := ""
  deriving DecidableEq, Repr

/-- The name and version of the program. -/
def versionText : String := "swagger-models 0.3.0\n"

def usageExitCode : Nat := 2

def writeExitCode : Nat := 3

def helpLines : Topic → List String
  | .program =>
    ["Derive relational entity models from Swagger definitions",
     "",
     "Usage: swagger-models [OPTIONS] <COMMAND>",
     "",
     "Commands:",
     "  compile  Compile a schema and print the resulting model as JSON",
     "  ddl      Compile a schema and print CREATE TABLE statements",
     "  help     Print this message or the help of the given subcommand(s)",
     "",
     "Options:",
     "  -v, --verbose  Log debug output to stderr",
     "  -h, --help     Print help",
     "  -V, --version  Print version"]
  | .compile =>
    ["Compile a schema and print the resulting model as JSON",
     "",
     "Usage: swagger-models compile [OPTIONS] <SCHEMA>",
     "",
     "Arguments:",
     "  <SCHEMA>  Schema source: file path (JSON or YAML) or URL (http:// or https://)",
     "",
     "Options:",
     "      --output <OUTPUT>  Output file (stdout if not specified)",
     "      --pretty           Pretty-print JSON output",
     "      --no-autosync      Synchronize without forcing recreation of tables",
     "  -v, --verbose          Log debug output to stderr",
     "  -h, --help             Print help"]
  | .ddl =>
    ["Compile a schema and print CREATE TABLE statements",
     "",
     "Usage: swagger-models ddl [OPTIONS] <SCHEMA>",
     "",
     "Arguments:",
     "  <SCHEMA>  Schema source: file path (JSON or YAML) or URL (http:// or https://)",
     "",
     "Options:",
     "      --output <OUTPUT>  Output file (stdout if not specified)",
     "  -v, --verbose          Log debug output to stderr",
     "  -h, --help             Print help"]
  | .help =>
    ["Print this message or the help of the given subcommand(s)",
     "",
     "Usage: swagger-models help [COMMAND]...",
     "",
     "Arguments:",
     "  [COMMAND]...  Print help for the subcommand(s)"]

def helpText (topic : Topic) : String :=
  String.join ((helpLines topic).map (· ++ "\n"))

/-- The model of a document, made in a new store. -/
def modelOf (document : Json) (options : InitOptions) : Except BackendError Registry :=
  match Registry.initializeWith Store.backend {} document options {} with
  | (.ok _, registry, _) => .ok registry
  | (.error error, _, _) => .error error

namespace Product

/-- The options with which the model is made. -/
def options : Product → InitOptions
  | .model _ autosync => ⟨autosync⟩
  | .tables => {}

/-- What is printed of a model, without the line break at the end. -/
def text : Product → Registry → String
  | .model true _, r => r.toJson.pretty
  | .model false _, r => r.toJson.render
  | .tables, r => String.ofList (Text.trimEnd r.tableText.toList)

end Product

variable {m : Type → Type} [Monad m]

/-- Prints a text, or writes it to a file. -/
def emit (files : Files m) (output : Option String) (text : String) : m Outcome := do
  match output with
  | none => return { exitCode := 0, stdout := text ++ "\n" }
  | some path =>
    match ← files.write path text with
    | .ok () => return { exitCode := 0 }
    | .error reason =>
      return {
        exitCode := writeExitCode
        stderr := "Error writing to " ++ path ++ ": " ++ reason ++ "\n" }

def Command.run (files : Files m) (c : Command) : m Outcome := do
  match ← Document.load files c.source with
  | .error error =>
    return { exitCode := error.exitCode, stderr := "Error: " ++ error.message ++ "\n" }
  | .ok document =>
    match modelOf document c.product.options with
    | .error error =>
      return { exitCode := error.exitCode, stderr := "Error: " ++ error.message ++ "\n" }
    | .ok registry => emit files c.output (c.product.text registry)

def run (files : Files m) (arguments : List String) : m Outcome := do
  match Invocation.ofArguments arguments with
  | .error error =>
    return { exitCode := usageExitCode, stderr := "error: " ++ error.message ++ "\n" }
  | .ok (.help topic) => return { exitCode := 0, stdout := helpText topic }
  | .ok .version => return { exitCode := 0, stdout := versionText }
  | .ok (.command command) => command.run files

end EntityModel.CommandLine
