import DriverValidation.Number.Binary64

/-!
The values of a configuration document, and why a text is no such document.
-/

namespace DriverValidation.Toml

/-- A value of a document. The text of a point in time is kept as it is written. -/
inductive Value where
  | text (s : String)
  | integer (n : Int)
  | float (x : Number.Binary64)
  | boolean (b : Bool)
  | time (s : String)
  | array (items : List Value)
  | table (entries : List (String × Value))

/-- The keys of a table with their values; no key stands in it twice. -/
abbrev Table := List (String × Value)

/-- Why a text is no document. -/
inductive Error where
  | malformedKey
  | malformedText
  | malformedValue
  | malformedHeader
  | malformedArray
  | malformedTable
  | missingEquals
  | missingLineEnd
  | controlCharacter
  | numberOutOfRange
  | repeatedKey (key : String)
  | notATable (key : String)
  | tooDeep
  | unreadable
  deriving Repr, DecidableEq

def Error.message : Error → String
  | malformedKey => "invalid key"
  | malformedText => "invalid string"
  | malformedValue => "invalid value"
  | malformedHeader => "invalid table header"
  | malformedArray => "invalid array"
  | malformedTable => "invalid inline table"
  | missingEquals => "expected an equals sign"
  | missingLineEnd => "expected newline"
  | controlCharacter => "invalid control character"
  | numberOutOfRange => "number out of range"
  | repeatedKey key => s!"duplicate key {key}"
  | notATable key => s!"key {key} is not a table"
  | tooDeep => "recursion limit exceeded"
  | unreadable => "the document cannot be read"

end DriverValidation.Toml
