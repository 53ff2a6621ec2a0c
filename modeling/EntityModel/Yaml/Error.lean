/-!
# What is wrong with a YAML text

The causes for which a YAML text is refused, whether it is not a sequence of tokens, its tokens are
not a document, or its document has no JSON value.
-/

namespace EntityModel.Yaml

/-- The causes for which a text is refused. -/
inductive Error where
  | forbiddenCharacter
  | noToken
  | missingColon
  | entryNotAllowed
  | keyNotAllowed
  | valueNotAllowed
  | directive
  | anchorName
  | tagSyntax
  | unterminatedScalar
  | documentIndicator
  | escape
  | tabIndentation
  | blockHeader
  | colonInFlow
  | unexpectedToken
  | duplicateDirective
  | incompatibleVersion
  | undefinedHandle
  | unknownAnchor
  | severalDocuments
  | recursionLimit
  | repetitionLimit
  | compositeKey
  | unknownTag
  | tagMismatch
  | integerRange
  deriving DecidableEq, Repr

def Error.message : Error → String
  | .forbiddenCharacter => "control characters are not allowed"
  | .noToken => "found character that cannot start any token"
  | .missingColon => "could not find expected ':'"
  | .entryNotAllowed => "block sequence entries are not allowed in this context"
  | .keyNotAllowed => "mapping keys are not allowed in this context"
  | .valueNotAllowed => "mapping values are not allowed in this context"
  | .directive => "found a malformed or unknown directive"
  | .anchorName => "did not find expected alphabetic or numeric character"
  | .tagSyntax => "found a malformed tag"
  | .unterminatedScalar => "found unexpected end of stream"
  | .documentIndicator => "found unexpected document indicator"
  | .escape => "found an invalid escape in a quoted scalar"
  | .tabIndentation => "found a tab character where an indentation space is expected"
  | .blockHeader => "found a malformed block scalar header"
  | .colonInFlow => "found unexpected ':'"
  | .unexpectedToken => "did not find expected token"
  | .duplicateDirective => "found duplicate directive"
  | .incompatibleVersion => "found incompatible YAML document"
  | .undefinedHandle => "found undefined tag handle"
  | .unknownAnchor => "unknown anchor"
  | .severalDocuments => "more than one document"
  | .recursionLimit => "recursion limit exceeded"
  | .repetitionLimit => "repetition limit exceeded"
  | .compositeKey => "expected a string key"
  | .unknownTag => "unexpected tag"
  | .tagMismatch => "the scalar does not have the form that its tag demands"
  | .integerRange => "integer out of range"

end EntityModel.Yaml
