import EntityModel.Yaml.Cursor

/-!
# YAML tokens

The pieces that a YAML text is made of. The indentation of block collections is turned into start
and end tokens; the start and end of the text have none.
-/

namespace EntityModel.Yaml

/-- The bytes of a tag, which need not be valid text. -/
abbrev Tag := List UInt8

def bytesOf (s : String) : List UInt8 := s.toUTF8.toList

inductive Token where
  | version (major minor : Nat)
  | handle (name : List Char) (expansion : Tag)
  | documentStart
  | documentEnd
  | blockSequenceStart
  | blockMappingStart
  | blockEnd
  | flowSequenceStart
  | flowSequenceEnd
  | flowMappingStart
  | flowMappingEnd
  | blockEntry
  | flowEntry
  | key
  | value
  | alias (name : List Char)
  | anchor (name : List Char)
  | tag (handle : List Char) (suffix : Tag)
  | scalar (text : List Char) (plain : Bool)
  deriving DecidableEq, Repr

end EntityModel.Yaml
