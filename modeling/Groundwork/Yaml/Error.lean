/-
Why a text is no YAML document of the expected form.
-/
set_option autoImplicit false

namespace Groundwork.Yaml

/-- What is wrong with a document. -/
inductive Error where
  /-- A character that no document may hold, or bytes that are not UTF-8. -/
  | character
  /-- A directive that is malformed, repeated or unknown, or an unknown version. -/
  | directive
  /-- An anchor or alias without a proper name. -/
  | anchorName
  /-- A tag that is malformed. -/
  | tag
  /-- A tag whose handle was not declared. -/
  | tagHandle
  /-- A malformed header of a block scalar. -/
  | blockHeader
  /-- A tab where indentation is expected. -/
  | tab
  /-- A quoted scalar that does not end. -/
  | unclosedQuote
  /-- An escape that is malformed or unknown. -/
  | escape
  /-- A colon before an indicator, inside a flow collection. -/
  | flowColon
  /-- A key without its colon. -/
  | keyWithoutColon
  /-- An indicator that cannot stand here. -/
  | misplaced
  /-- A character that starts no token. -/
  | unknownToken
  /-- Something other than the start of a document. -/
  | documentStart
  /-- No node where one is expected. -/
  | node
  /-- No entry where one is expected. -/
  | entry
  /-- An alias of an anchor that does not stand before it. -/
  | unknownAlias
  /-- More than one document. -/
  | manyDocuments
  /-- A node of another kind than expected. -/
  | shape
  /-- A scalar that is not of the expected type. -/
  | scalar
  /-- A field that is given twice. -/
  | repeatedField
  /-- A field that is missing. -/
  | missingField (name : String)
deriving DecidableEq, Repr

/-- What is said about it. -/
def Error.message : Error → String
  | character => "characters that are not allowed"
  | directive => "invalid directive"
  | anchorName => "did not find expected alphabetic or numeric character"
  | tag => "invalid tag"
  | tagHandle => "found undefined tag handle"
  | blockHeader => "invalid block scalar header"
  | tab => "found a tab character where an indentation space is expected"
  | unclosedQuote => "found unexpected end of stream"
  | escape => "found unknown escape character"
  | flowColon => "found unexpected ':'"
  | keyWithoutColon => "could not find expected ':'"
  | misplaced => "found an indicator that is not allowed in this context"
  | unknownToken => "found character that cannot start any token"
  | documentStart => "did not find expected <document start>"
  | node => "did not find expected node content"
  | entry => "did not find expected entry"
  | unknownAlias => "unknown anchor"
  | manyDocuments => "deserializing from YAML containing more than one document is not supported"
  | shape => "invalid type"
  | scalar => "invalid value"
  | repeatedField => "duplicate field"
  | missingField name => "missing field " ++ name

end Groundwork.Yaml
