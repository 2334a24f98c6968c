import DriverValidation.Yaml.Cursor

/-!
Why a document cannot be read, and the wording of each cause.
-/

namespace DriverValidation.Yaml

/-- What is wrong with the form of a document. -/
inductive Problem where
  | strayCharacter
  | tabInIndentation
  | unfinishedKey
  | misplacedKey
  | misplacedValue
  | misplacedEntry
  | colonInFlow
  | unfinishedQuote
  | documentMarkInQuote
  | unknownEscape
  | notHexadecimal
  | noSuchCharacter
  | zeroIndentation
  | trailingCharacters
  | malformedAnchor
  | malformedTag
  | malformedDirective
  | unknownDirective
  | repeatedDirective
  | unsupportedVersion
  | undefinedHandle
  | missingDocumentStart
  | missingNode
  | missingEntry
  | missingKey
  | missingComma
  | unreadable
  deriving Repr, DecidableEq

def Problem.message : Problem → String
  | strayCharacter => "found character that cannot start any token"
  | tabInIndentation => "found a tab character where indentation is expected"
  | unfinishedKey => "could not find expected ':'"
  | misplacedKey => "mapping keys are not allowed in this context"
  | misplacedValue => "mapping values are not allowed in this context"
  | misplacedEntry => "block sequence entries are not allowed in this context"
  | colonInFlow => "found unexpected ':'"
  | unfinishedQuote => "found unexpected end of stream"
  | documentMarkInQuote => "found unexpected document indicator"
  | unknownEscape => "found unknown escape character"
  | notHexadecimal => "did not find expected hexadecimal number"
  | noSuchCharacter => "found invalid Unicode character escape code"
  | zeroIndentation => "found an indentation indicator equal to 0"
  | trailingCharacters => "did not find expected comment or line break"
  | malformedAnchor => "did not find expected alphabetic or numeric character"
  | malformedTag => "did not find expected tag"
  | malformedDirective => "did not find expected directive"
  | unknownDirective => "found unknown directive name"
  | repeatedDirective => "found duplicate directive"
  | unsupportedVersion => "found incompatible YAML document"
  | undefinedHandle => "found undefined tag handle"
  | missingDocumentStart => "did not find expected <document start>"
  | missingNode => "did not find expected node content"
  | missingEntry => "did not find expected '-' indicator"
  | missingKey => "did not find expected key"
  | missingComma => "did not find expected ',' or closing bracket"
  | unreadable => "the document cannot be read"

/-- Why a document cannot be read. -/
inductive Error where
  | forbiddenCharacter (c : Char)
  | malformed (problem : Problem) (mark : Mark)
  | malformedStructure (problem : Problem)
  | unknownAnchor (name : String)
  | severalDocuments
  | tooDeep
  | tooManyRepetitions
  | repeatedKey
  | wrongKind (expected : String)
  deriving Repr, DecidableEq

def Error.message : Error → String
  | forbiddenCharacter _ => "control characters are not allowed"
  | malformed problem mark =>
    s!"{problem.message} at line {mark.line + 1} column {mark.column + 1}"
  | malformedStructure problem => problem.message
  | unknownAnchor name => s!"unknown anchor {name}"
  | severalDocuments => "more than one document"
  | tooDeep => "recursion limit exceeded"
  | tooManyRepetitions => "repetition limit exceeded"
  | repeatedKey => "duplicate entry"
  | wrongKind expected => s!"invalid type, expected {expected}"

end DriverValidation.Yaml
