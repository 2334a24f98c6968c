/-!
The characters of a document: which may stand in it at all, which end a line, and which classes
the indicators, names and tags are made of. A document is first brought to one kind of line
ending, so that from then on each line break is a single character.
-/

namespace DriverValidation.Yaml

/-- The characters that may stand in a document. -/
def isAllowed (c : Char) : Bool :=
  let n := c.toNat
  n == 0x9 || n == 0xA || n == 0xD || (0x20 ≤ n && n ≤ 0x7E) || n == 0x85 ||
    (0xA0 ≤ n && n ≤ 0xD7FF) || (0xE000 ≤ n && n ≤ 0xFFFD) || 0x10000 ≤ n

/-- The line breaks that are left once a document has one kind of line ending: the line feed, and
the two separators that keep their identity. -/
def isBreak (c : Char) : Bool :=
  c == '\n' || c == '\u2028' || c == '\u2029'

/-- Writes a carriage return, with or without a line feed after it, and the next-line character as
a line feed. -/
def unifyBreaks : List Char → List Char
  | [] => []
  | '\r' :: '\n' :: rest => '\n' :: unifyBreaks rest
  | '\r' :: rest => '\n' :: unifyBreaks rest
  | '\u0085' :: rest => '\n' :: unifyBreaks rest
  | c :: rest => c :: unifyBreaks rest

def isGap (c : Char) : Bool := c == ' ' || c == '\t'

/-- A space, a tab or a line break. -/
def isSeparator (c : Char) : Bool := isGap c || isBreak c

def atSeparator : List Char → Bool
  | [] => true
  | c :: _ => isSeparator c

def atLineEnd : List Char → Bool
  | [] => true
  | c :: _ => isBreak c

/-- The characters of anchors, directive names and tag handles. -/
def isWord (c : Char) : Bool := c.isAlphanum || c == '_' || c == '-'

/-- The characters that open, close or separate flow collections. -/
def isFlowIndicator (c : Char) : Bool :=
  c == ',' || c == '[' || c == ']' || c == '{' || c == '}'

/-- The characters of a tag besides the percent sign; commas and brackets only in a tag that is
written out in full. -/
def isTagCharacter (full : Bool) (c : Char) : Bool :=
  isWord c || [';', '/', '?', ':', '@', '&', '=', '+', '$', '.', '!', '~', '*', '\'', '(',
    ')'].contains c || (full && (c == ',' || c == '[' || c == ']'))

/-- The text goes on with three dashes or three dots that stand alone. -/
def atDocumentMark : List Char → Bool
  | '-' :: '-' :: '-' :: rest => atSeparator rest
  | '.' :: '.' :: '.' :: rest => atSeparator rest
  | _ => false

end DriverValidation.Yaml
