import EntityModel.Yaml.Scan

/-!
# From tokens to nodes

The tokens of a text form at most one document. Its nodes keep their tags and the aliases among
them.

Every node and every end of a collection is an event, and events are counted from the start of the
document. An anchor takes a number when its node starts: the number of different names anchored so
far, also for a name that is anchored again. An alias stands for the last node of the whole document
that took the number of its name.
-/

namespace EntityModel.Yaml

/-- A node of a document. -/
inductive Node where
  | alias (number : Nat)
  | scalar (tag : Option Tag) (text : String) (plain : Bool)
  | sequence (tag : Option Tag) (items : List Node)
  | mapping (tag : Option Tag) (entries : List (Node × Node))
  deriving Repr

def Node.empty (tag : Option Tag) : Node := .scalar tag "" true

/-- A document: its root, and what its aliases stand for. -/
structure Graph where
  root : Node
  events : Nat
  /-- The anchored nodes by their first event. -/
  nodes : List (Nat × Node)
  /-- The first events of anchored nodes by the number of the anchor, the last one first. -/
  starts : List (Nat × Nat)
  deriving Repr

/-- The node that an alias stands for. -/
def Graph.target? (g : Graph) (number : Nat) : Option Node :=
  (g.starts.lookup number).bind fun start => g.nodes.lookup start

namespace Node

/-- How far the tokens are read. -/
structure Progress where
  tokens : List Token
  /-- The expansions of tag handles. -/
  handles : List (List Char × Tag) := []
  /-- The numbers of the anchored names. -/
  anchors : List (List Char × Nat) := []
  starts : List (Nat × Nat) := []
  nodes : List (Nat × Node) := []
  events : Nat := 0

/-- Reading tokens. -/
abbrev Read := StateT Progress (Except Error)

/-- The next token, which stays there. -/
def peek : Read (Option Token) := return (← get).tokens.head?

/-- Goes on behind the next token. -/
def skip : Read Unit := modify fun p => { p with tokens := p.tokens.tail }

/-- Refuses the next token. -/
def unexpected {α : Type} : Read α := throw .unexpectedToken

/-- Is the next token one of the given ones? -/
def nextIs (tokens : List Token) : Read Bool := return (← peek).any tokens.contains

def event : Read Unit := modify fun p => { p with events := p.events + 1 }

/-- Starts a node: counts its event, which it returns, and numbers its anchor. -/
def start (anchor : Option (List Char)) : Read Nat := do
  let p ← get
  match anchor with
  | some name =>
    let number := p.anchors.length
    let others := p.anchors.filter (·.1 != name)
    set { p with
      anchors := (name, number) :: others
      starts := (number, p.events) :: p.starts
      events := p.events + 1 }
  | none => set { p with events := p.events + 1 }
  return p.events

/-- Ends a node that started at an event. -/
def finish (anchor : Option (List Char)) (start : Nat) (node : Node) : Read Node := do
  if anchor.isSome then modify fun p => { p with nodes := (start, node) :: p.nodes }
  return node

/-- An empty node, for which there is no token. -/
def missing : Read Node := do
  event
  return Node.empty none

/-- A tag with its handle expanded. -/
def expand (handle : List Char) (suffix : Tag) : Read Tag := do
  if handle.isEmpty then return suffix
  else
    match (← get).handles.lookup handle with
    | some expansion => return expansion ++ suffix
    | none => throw .undefinedHandle

def tag? : Read (Option Tag) := do
  match ← peek with
  | some (.tag handle suffix) =>
    skip
    return some (← expand handle suffix)
  | _ => return none

def anchor? : Read (Option (List Char)) := do
  match ← peek with
  | some (.anchor name) =>
    skip
    return some name
  | _ => return none

/-- Reads an anchor and a tag, in any order. -/
def properties : Read (Option (List Char) × Option Tag) := do
  match ← anchor? with
  | some name => return (some name, ← tag?)
  | none =>
    let tag ← tag?
    if tag.isSome then return (← anchor?, tag) else return (none, none)

mutual

/-- Reads a node. Block collections may start here only if `block` is set, and the entries of a
sequence may follow without a start only if `bare` is set. The fuel is more than four times the
number of tokens left. -/
def read : (fuel : Nat) → (block bare : Bool) → Read Node
  | 0, _, _ => unexpected
  | fuel + 1, block, bare => do
    match ← peek with
    | some (.alias name) =>
      skip
      event
      match (← get).anchors.lookup name with
      | some number => return .alias number
      | none => throw .unknownAnchor
    | _ =>
      let (anchor, tag) ← properties
      let first ← start anchor
      let node ← content fuel block bare (anchor.isSome || tag.isSome) tag
      finish anchor first node

/-- Reads what a node holds, after its properties. -/
def content : (fuel : Nat) → (block bare hasProperties : Bool) → Option Tag → Read Node
  | 0, _, _, _, _ => unexpected
  | fuel + 1, block, bare, hasProperties, tag => do
    match ← peek with
    | some (.scalar text plain) =>
      skip
      return .scalar tag (String.ofList text) plain
    | some .flowSequenceStart =>
      skip
      return .sequence tag (← flowItems fuel true)
    | some .flowMappingStart =>
      skip
      return .mapping tag (← flowEntries fuel true)
    | some .blockSequenceStart =>
      if block then
        skip
        return .sequence tag (← blockItems fuel)
      else if hasProperties then return Node.empty tag
      else unexpected
    | some .blockMappingStart =>
      if block then
        skip
        return .mapping tag (← blockEntries fuel)
      else if hasProperties then return Node.empty tag
      else unexpected
    | some .blockEntry =>
      if bare then return .sequence tag (← bareItems fuel)
      else if hasProperties then return Node.empty tag
      else unexpected
    | _ => if hasProperties then return Node.empty tag else unexpected

/-- Reads a node unless one of the given tokens stands in its place. -/
def readUnless : (fuel : Nat) → List Token → (block bare : Bool) → Read Node
  | 0, _, _, _ => unexpected
  | fuel + 1, tokens, block, bare => do
    if ← nextIs tokens then missing else read fuel block bare

/-- Reads the entries of a block sequence and its end. -/
def blockItems : (fuel : Nat) → Read (List Node)
  | 0 => unexpected
  | fuel + 1 => do
    match ← peek with
    | some .blockEntry =>
      skip
      let item ← readUnless fuel [.blockEntry, .blockEnd] true false
      return item :: (← blockItems fuel)
    | some .blockEnd =>
      skip
      event
      return []
    | _ => unexpected

/-- Reads the entries of a sequence that has neither start nor end. -/
def bareItems : (fuel : Nat) → Read (List Node)
  | 0 => unexpected
  | fuel + 1 => do
    match ← peek with
    | some .blockEntry =>
      skip
      let item ← readUnless fuel [.blockEntry, .key, .value, .blockEnd] true false
      return item :: (← bareItems fuel)
    | _ =>
      event
      return []

/-- Reads the entries of a block mapping and its end. -/
def blockEntries : (fuel : Nat) → Read (List (Node × Node))
  | 0 => unexpected
  | fuel + 1 => do
    match ← peek with
    | some .key =>
      skip
      let key ← readUnless fuel [.key, .value, .blockEnd] true true
      let value ← valueUnless fuel [.key, .value, .blockEnd] true
      return (key, value) :: (← blockEntries fuel)
    | some .blockEnd =>
      skip
      event
      return []
    | _ => unexpected

/-- Reads the value of a key, which may be missing. -/
def valueUnless : (fuel : Nat) → List Token → (block : Bool) → Read Node
  | 0, _, _ => unexpected
  | fuel + 1, tokens, block => do
    if ← nextIs [.value] then
      skip
      readUnless fuel tokens block block
    else missing

/-- Reads the items of a flow sequence and its end. -/
def flowItems : (fuel : Nat) → (first : Bool) → Read (List Node)
  | 0, _ => unexpected
  | fuel + 1, first => do
    if ← nextIs [.flowSequenceEnd] then
      skip
      event
      return []
    else
      if !first then
        if ← nextIs [.flowEntry] then skip else unexpected
      match ← peek with
      | some .key =>
        skip
        let pair ← flowPair fuel
        return pair :: (← flowItems fuel false)
      | some .flowSequenceEnd =>
        skip
        event
        return []
      | _ =>
        let item ← read fuel false false
        return item :: (← flowItems fuel false)

/-- Reads a mapping of a single pair inside a flow sequence, after the token of its key. Where the
key is missing, the token in its place is dropped. -/
def flowPair : (fuel : Nat) → Read Node
  | 0 => unexpected
  | fuel + 1 => do
    event
    let key ←
      if ← nextIs [.value, .flowEntry, .flowSequenceEnd] then
        skip
        missing
      else read fuel false false
    let value ← valueUnless fuel [.flowEntry, .flowSequenceEnd] false
    event
    return .mapping none [(key, value)]

/-- Reads the entries of a flow mapping and its end. -/
def flowEntries : (fuel : Nat) → (first : Bool) → Read (List (Node × Node))
  | 0, _ => unexpected
  | fuel + 1, first => do
    if ← nextIs [.flowMappingEnd] then
      skip
      event
      return []
    else
      if !first then
        if ← nextIs [.flowEntry] then skip else unexpected
      match ← peek with
      | some .key =>
        skip
        let key ← readUnless fuel [.value, .flowEntry, .flowMappingEnd] false false
        let value ← valueUnless fuel [.flowEntry, .flowMappingEnd] false
        return (key, value) :: (← flowEntries fuel false)
      | some .flowMappingEnd =>
        skip
        event
        return []
      | _ =>
        let key ← read fuel false false
        let value ← missing
        return (key, value) :: (← flowEntries fuel false)

end

/-! ## Documents -/

/-- Reads the directives before a document: at most one version and one expansion a handle. -/
def directives : (fuel : Nat) → (version : Bool) → Read Unit
  | 0, _ => unexpected
  | fuel + 1, version => do
    match ← peek with
    | some (.version major minor) =>
      if version then throw .duplicateDirective
      else if major ≠ 1 || (minor ≠ 1 && minor ≠ 2) then throw .incompatibleVersion
      else
        skip
        directives fuel true
    | some (.handle name expansion) =>
      if ((← get).handles.lookup name).isSome then throw .duplicateDirective
      else
        skip
        modify fun p => { p with handles := (name, expansion) :: p.handles }
        directives fuel version
    | _ => return ()

/-- Adds the expansions that hold unless directives say otherwise. -/
def defaultHandles : Read Unit :=
  modify fun p => { p with
    handles := p.handles ++
      [(['!'], bytesOf "!"), (['!', '!'], bytesOf "tag:yaml.org,2002:")] }

def isDirective : Token → Bool
  | .version _ _ => true
  | .handle _ _ => true
  | _ => false

/-- Reads marks after a document. -/
def documentEnds : (fuel : Nat) → Read Unit
  | 0 => unexpected
  | fuel + 1 => do
    if ← nextIs [.documentEnd] then
      skip
      documentEnds fuel

/-- Reads the root of a document that has a mark before it. -/
def markedRoot (fuel : Nat) : Read Node := do
  directives fuel false
  defaultHandles
  if ← nextIs [.documentStart] then
    skip
    match ← peek with
    | none => missing
    | some token =>
      if isDirective token || token == .documentStart || token == .documentEnd then missing
      else read fuel true false
  else unexpected

/-- Reads the only document of a text, if it has one. -/
def document (fuel : Nat) : Read (Option Node) := do
  match ← peek with
  | none => return none
  | some token =>
    let root ←
      if isDirective token || token == .documentStart then markedRoot fuel
      else do
        defaultHandles
        read fuel true false
    documentEnds fuel
    if (← peek).isSome then throw .severalDocuments else return some root

end Node

def Graph.ofTokens (tokens : List Token) : Except Error (Option Graph) := do
  let (root, p) ← (Node.document (4 * tokens.length + 8)).run { tokens }
  .ok (root.map fun root => ⟨root, p.events, p.nodes, p.starts⟩)

end EntityModel.Yaml
