/-!
# Arguments

The arguments of the program are a command with its options, or a question for help or the version.
The first argument that is out of place decides; help is given as soon as it is asked for. Every
option may be given once, and behind two hyphens nothing is an option any more.
-/

namespace EntityModel.CommandLine

/-- What a command prints. -/
inductive Product where
  | model (pretty autosync : Bool)
  | tables
  deriving DecidableEq, Repr

structure Command where
  product : Product
  source : String
  /-- The file that is written in place of the output. -/
  output : Option String
  deriving DecidableEq, Repr

/-- What help is about. -/
inductive Topic where
  | program
  | compile
  | ddl
  | help
  deriving DecidableEq, Repr

/-- What the arguments ask for. -/
inductive Invocation where
  | command (command : Command)
  | help (topic : Topic)
  | version
  deriving DecidableEq, Repr

/-- Why arguments are refused. -/
inductive UsageError where
  | unexpected (argument : String)
  | unknownCommand (name : String)
  | missingCommand
  | missingSource
  | missingValue (option : String)
  | needlessValue (option : String)
  | repeated (option : String)
  deriving DecidableEq, Repr

namespace UsageError

def message : UsageError → String
  | .unexpected argument => "unexpected argument '" ++ argument ++ "' found"
  | .unknownCommand name => "unrecognized subcommand '" ++ name ++ "'"
  | .missingCommand => "a subcommand is required but one was not provided"
  | .missingSource => "the following required arguments were not provided: <SCHEMA>"
  | .missingValue option => "a value is required for '" ++ option ++ "' but none was supplied"
  | .needlessValue option => "no value is accepted for '" ++ option ++ "'"
  | .repeated option => "the argument '" ++ option ++ "' cannot be used multiple times"

end UsageError

/-- How an argument looks. -/
inductive Argument where
  /-- Two hyphens alone. -/
  | escape
  /-- Two hyphens and a name, and perhaps a value behind an equals sign. -/
  | long (name : List Char) (value : Option (List Char))
  /-- A hyphen and letters. -/
  | short (letters : List Char)
  | plain
  deriving DecidableEq, Repr

/-- The look of an argument. -/
def Argument.ofText (text : String) : Argument :=
  match text.toList with
  | ['-', '-'] => .escape
  | '-' :: '-' :: rest =>
    match rest.dropWhile (· ≠ '=') with
    | '=' :: value => .long (rest.takeWhile (· ≠ '=')) (some value)
    | _ => .long rest none
  | '-' :: c :: rest => .short (c :: rest)
  | _ => .plain

/-- The commands, each with options of its own. -/
inductive Kind where
  | compile
  | ddl
  deriving DecidableEq, Repr

def Kind.topic : Kind → Topic
  | .compile => .compile
  | .ddl => .ddl

/-- The options that have no value. -/
inductive Flag where
  | verbose
  | pretty
  | noAutosync
  | help
  | version
  deriving DecidableEq, Repr

/-- The long names of the flags that a command knows; without one, those of the program. -/
def Flag.ofName (kind : Option Kind) (name : List Char) : Option Flag :=
  let name := String.ofList name
  if name = "verbose" then some .verbose
  else if name = "help" then some .help
  else if name = "version" && kind = none then some .version
  else if name = "pretty" && kind = some .compile then some .pretty
  else if name = "no-autosync" && kind = some .compile then some .noAutosync
  else none

/-- The letters of the flags that a command knows; without one, those of the program. -/
def Flag.ofLetter (kind : Option Kind) (letter : Char) : Option Flag :=
  if letter = 'v' then some .verbose
  else if letter = 'h' then some .help
  else if letter = 'V' && kind = none then some .version
  else none

abbrev Flags := List Flag

/-- Gives a flag, or answers it at once. -/
def giveFlag (topic : Topic) (given : Flags) (flag : Flag) :
    Except UsageError (Flags ⊕ Invocation) :=
  match flag with
  | .help => .ok (.inr (.help topic))
  | .version => .ok (.inr .version)
  | flag =>
    if given.contains flag then
      .error (.repeated
        (match flag with
          | .pretty => "--pretty"
          | .noAutosync => "--no-autosync"
          | _ => "--verbose"))
    else .ok (.inl (flag :: given))

/-- Gives the flags of some letters, one after another. -/
def giveLetters (kind : Option Kind) (topic : Topic) :
    Flags → List Char → Except UsageError (Flags ⊕ Invocation)
  | given, [] => .ok (.inl given)
  | given, letter :: rest =>
    match Flag.ofLetter kind letter with
    | none => .error (.unexpected (String.ofList ['-', letter]))
    | some flag => do
      match ← giveFlag topic given flag with
      | .inl given => giveLetters kind topic given rest
      | .inr answer => .ok (.inr answer)

/-- What was given to a command so far. -/
structure Given where
  flags : Flags := []
  source : Option String := none
  output : Option String := none
  deriving DecidableEq, Repr

namespace Given

def addSource (g : Given) (text : String) : Except UsageError Given :=
  if g.source.isSome then .error (.unexpected text) else .ok { g with source := some text }

/-- Gives the output file, whose name is not empty. -/
def addOutput (g : Given) (name : String) : Except UsageError Given :=
  if name.isEmpty then .error (.missingValue "--output")
  else if g.output.isSome then .error (.repeated "--output")
  else .ok { g with output := some name }

/-- The command that was given. -/
def finish (g : Given) (kind : Kind) : Except UsageError Invocation :=
  match g.source with
  | none => .error .missingSource
  | some source =>
    let product :=
      match kind with
      | .compile => .model (g.flags.contains .pretty) (!g.flags.contains .noAutosync)
      | .ddl => .tables
    .ok (.command ⟨product, source, g.output⟩)

end Given

/-- Reads the arguments of a command. `pending` is set behind an option that waits for its value,
and `escaped` behind two hyphens. -/
def readCommand (kind : Kind) : (pending escaped : Bool) → Given → List String →
    Except UsageError Invocation
  | pending, _, g, [] => if pending then .error (.missingValue "--output") else g.finish kind
  | pending, true, g, text :: rest =>
    if pending then .error (.missingValue "--output")
    else do
      let g ← g.addSource text
      readCommand kind false true g rest
  | pending, false, g, text :: rest =>
    match Argument.ofText text with
    | .plain => do
      let g ← if pending then g.addOutput text else g.addSource text
      readCommand kind false false g rest
    | .escape => readCommand kind pending true g rest
    | .long name value => do
      if pending then .error (.missingValue "--output")
      else if name = "output".toList then
        match value with
        | some value =>
          let g ← g.addOutput (String.ofList value)
          readCommand kind false false g rest
        | none => readCommand kind true false g rest
      else
        match Flag.ofName (some kind) name with
        | none => .error (.unexpected text)
        | some flag =>
          if value.isSome then .error (.needlessValue text)
          else
            match ← giveFlag kind.topic g.flags flag with
            | .inl flags => readCommand kind false false { g with flags } rest
            | .inr answer => .ok answer
    | .short letters => do
      if pending then .error (.missingValue "--output")
      else
        match ← giveLetters (some kind) kind.topic g.flags letters with
        | .inl flags => readCommand kind false false { g with flags } rest
        | .inr answer => .ok answer

/-- Reads what help is asked about. -/
def readTopic : List String → Except UsageError Invocation
  | [] => .ok (.help .program)
  | name :: rest =>
    let topic? : Option Topic :=
      if name = "compile" then some .compile
      else if name = "ddl" then some .ddl
      else if name = "help" then some .help
      else none
    match topic?, rest with
    | some topic, [] => .ok (.help topic)
    | some _, other :: _ => .error (.unknownCommand other)
    | none, _ => .error (.unknownCommand name)

/-- Reads the arguments in front of a command, and the command. -/
def readArguments : Flags → List String → Except UsageError Invocation
  | _, [] => .error .missingCommand
  | given, text :: rest =>
    match Argument.ofText text with
    | .plain =>
      if text = "compile" then readCommand .compile false false {} rest
      else if text = "ddl" then readCommand .ddl false false {} rest
      else if text = "help" then readTopic rest
      else .error (.unknownCommand text)
    | .escape =>
      match rest with
      | [] => .error .missingCommand
      | text :: _ => .error (.unexpected text)
    | .long name value => do
      match Flag.ofName none name with
      | none => .error (.unexpected text)
      | some flag =>
        if value.isSome then .error (.needlessValue text)
        else
          match ← giveFlag .program given flag with
          | .inl given => readArguments given rest
          | .inr answer => .ok answer
    | .short letters => do
      match ← giveLetters none .program given letters with
      | .inl given => readArguments given rest
      | .inr answer => .ok answer

/-- What the arguments of the program ask for. -/
def Invocation.ofArguments (arguments : List String) : Except UsageError Invocation :=
  readArguments [] arguments

end EntityModel.CommandLine
