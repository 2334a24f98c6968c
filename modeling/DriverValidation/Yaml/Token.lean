/-!
The tokens of a document: directives, the marks between documents, the structure that indentation
and brackets give, and the properties and texts of nodes.
-/

namespace DriverValidation.Yaml

/-- How a scalar is written. -/
inductive Style where
  | plain
  | singleQuoted
  | doubleQuoted
  | literal
  | folded
  deriving Repr, DecidableEq

/-- A piece of a document. `key` and `value` stand before the two halves of an entry whether or not
a character stands for them. -/
inductive Token where
  | versionDirective (major minor : Nat)
  | tagDirective (handle : List Char) (stem : List UInt8)
  | documentStart
  | documentEnd
  | streamEnd
  | blockSequenceStart
  | blockMappingStart
  | blockEnd
  | flowSequenceStart
  | flowSequenceEnd
  | flowMappingStart
  | flowMappingEnd
  | blockEntry
  | flowEntry
  | key
  | value
  | alias (name : List Char)
  | anchor (name : List Char)
  | tag (handle : List Char) (suffix : List UInt8)
  | scalar (style : Style) (text : List Char)
  deriving Repr, DecidableEq

end DriverValidation.Yaml
