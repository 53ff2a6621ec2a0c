import EntityModel.Yaml.Node
import EntityModel.Yaml.Scalar

/-!
# Reading YAML text

The JSON value of a document: aliases are replaced by what they stand for, scalars by their values,
and the keys of mappings, which must be scalars, by their text. Collections may nest 128 deep,
aliases included, and aliases may be followed at most a hundred times as often as the document has
events. A text without a document is null.
-/

namespace EntityModel.Yaml

/-- Evaluation, which counts the aliases that were followed. -/
abbrev Evaluation := StateT Nat (Except Error)

namespace Graph

/-- How deep collections may nest. -/
def maxDepth : Nat := 128

/-- The node itself, or the node that it stands for. -/
def follow (g : Graph) (node : Node) : Evaluation Node := do
  match node with
  | .alias number =>
    let followed := (← get) + 1
    set followed
    if g.events * 100 < followed then throw .repetitionLimit
    else
      match g.target? number with
      | some node => return node
      | none => throw .unknownAnchor
  | node => return node

def keyText (g : Graph) (node : Node) : Evaluation String := do
  match ← g.follow node with
  | .scalar _ text _ => return text
  | _ => throw .compositeKey

/-- Refuses collections with an unknown tag. -/
def checkTag (tag : Option Tag) : Evaluation Unit :=
  if tag.any Scalar.isUnknown then throw .unknownTag else return ()

/-- The value of a node; `depth` more levels may be opened. -/
def value (g : Graph) : (depth : Nat) → Node → Evaluation Json
  | 0, node => do
    match ← g.follow node with
    | .scalar tag text plain => Scalar.value tag text plain
    | _ => throw .recursionLimit
  | depth + 1, node => do
    match ← g.follow node with
    | .scalar tag text plain => Scalar.value tag text plain
    | .sequence tag items =>
      checkTag tag
      return .array (← items.mapM (g.value depth))
    | .mapping tag entries =>
      checkTag tag
      let pairs ← entries.mapM fun (key, item) => do
        let key ← g.keyText key
        return (key, ← g.value depth item)
      return Json.ofPairs pairs
    | .alias _ => throw .unknownAnchor

end Graph

def read (text : String) : Except Error Json := do
  match ← Graph.ofTokens (← tokens text.toList) with
  | some g => (g.value Graph.maxDepth g.root).run' 0
  | none => .ok .null

end EntityModel.Yaml
