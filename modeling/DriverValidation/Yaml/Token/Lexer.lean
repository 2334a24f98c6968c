import DriverValidation.Yaml.Token.Property
import DriverValidation.Yaml.Scalar.Plain
import DriverValidation.Yaml.Scalar.Quoted
import DriverValidation.Yaml.Scalar.Block

/-!
From characters to tokens. Indentation opens and closes blocks, and a mapping key is known as one
only when its colon is met: until then the place of a node that may turn out to be a key is
remembered, one for each open bracket, and the tokens that mark the key are put there later. Such a
key stands on one line and has at most 1024 bytes.
-/

namespace DriverValidation.Yaml

/-- A node that may turn out to be a mapping key: where it starts, how many tokens come before it,
and whether it can be nothing else. -/
structure KeyCandidate where
  mark : Mark
  tokensBefore : Nat
  required : Bool
  deriving Repr, DecidableEq

/-- A candidate that started on another line, or too far back, is none any more. -/
def KeyCandidate.isStale (key : KeyCandidate) (m : Mark) : Bool :=
  key.mark.line < m.line || key.mark.index + 1024 < m.index

/-- The state between two tokens. `indent` is the column of the innermost block, negative outside
of all, and `outer` those of the blocks around it; `keys` has the candidate of each open bracket,
innermost first, and that of the text around them last; the latest token stands first. -/
structure Lexer where
  cursor : Cursor
  indent : Int
  outer : List Int
  keyAllowed : Bool
  keys : List (Option KeyCandidate)
  tokens : List Token
  count : Nat
  deriving Repr, DecidableEq

namespace Lexer

def start (cs : List Char) : Lexer := ⟨.ofChars cs, -1, [], true, [none], [], 0⟩

def inFlow (l : Lexer) : Bool := 1 < l.keys.length

def column (l : Lexer) : Nat := l.cursor.mark.column

def fail {α : Type} (l : Lexer) (p : Problem) : Except Error α := .error (.malformed p l.cursor.mark)

def add (l : Lexer) (t : Token) : Lexer := { l with tokens := t :: l.tokens, count := l.count + 1 }

/-- The state with a token put behind the first `n` tokens. -/
def addAt (l : Lexer) (n : Nat) (t : Token) : Lexer :=
  let (later, earlier) := l.tokens.splitAt (l.count - n)
  { l with tokens := later ++ t :: earlier, count := l.count + 1 }

def skip (l : Lexer) (n : Nat) : Lexer := { l with cursor := l.cursor.skipMany n }

/-- Opens a block at a column that is deeper than the innermost block, by a token behind the first
`n` tokens. -/
def openBlock (l : Lexer) (column : Nat) (n : Nat) (t : Token) : Lexer :=
  if !l.inFlow && l.indent < column then
    { l.addAt n t with indent := column, outer := l.indent :: l.outer }
  else l

/-- Closes the blocks that are deeper than a column. -/
def closeBlocksFrom (column : Int) : List Int → Lexer → Lexer
  | [], l => l
  | around :: outer, l =>
    if column < l.indent then
      closeBlocksFrom column outer { l.add .blockEnd with indent := around, outer := outer }
    else l

/-- Closes the blocks that are deeper than a column; inside of a bracket there are none. -/
def closeBlocks (l : Lexer) (column : Int) : Lexer :=
  if l.inFlow then l else closeBlocksFrom column l.outer l

/-- Gives up the innermost candidate, which is a failure where it can be nothing but a key. -/
def dropKey (l : Lexer) : Except Error Lexer :=
  match l.keys with
  | some key :: keys =>
    if key.required then l.fail .unfinishedKey else .ok { l with keys := none :: keys }
  | _ => .ok l

/-- Remembers that a key may start here. -/
def offerKey (l : Lexer) : Except Error Lexer :=
  if l.keyAllowed then do
    let l ← l.dropKey
    let key := ⟨l.cursor.mark, l.count, !l.inFlow && l.indent == l.column⟩
    return { l with keys := some key :: l.keys.tail }
  else .ok l

/-- The candidate as it stands at a place. -/
def expire (m : Mark) : Option KeyCandidate → Except Error (Option KeyCandidate)
  | some key =>
    if key.isStale m then
      if key.required then .error (.malformed .unfinishedKey m) else .ok none
    else .ok (some key)
  | none => .ok none

/-- Forgets the candidates that are none any more. -/
def expireKeys (l : Lexer) : Except Error Lexer := do
  let keys ← l.keys.mapM (expire l.cursor.mark)
  return { l with keys }

/-- Passes over white space, comments and line breaks from `mark` on. A new line allows a key to
start, outside of brackets, and where one may start a tab is no white space. The mark of the byte
order may start a line, of which it takes a column. -/
def skipSpaceFrom (inFlow keyAllowed inComment : Bool) (mark : Mark) : List Char → Bool × Cursor
  | [] => (keyAllowed, ⟨mark, []⟩)
  | c :: rest =>
    if isBreak c then
      skipSpaceFrom inFlow (keyAllowed || !inFlow) false (mark.after c) rest
    else if inComment || c == ' ' || (c == '\t' && (inFlow || !keyAllowed)) then
      skipSpaceFrom inFlow keyAllowed inComment (mark.after c) rest
    else if c == '#' then skipSpaceFrom inFlow keyAllowed true (mark.after c) rest
    else if c == '\uFEFF' && mark.column == 0 then
      skipSpaceFrom inFlow keyAllowed false (mark.after c) rest
    else (keyAllowed, ⟨mark, c :: rest⟩)

/-- Passes over white space, comments and line breaks. -/
def skipSpace (l : Lexer) : Lexer :=
  let (keyAllowed, cursor) := skipSpaceFrom l.inFlow l.keyAllowed false l.cursor.mark l.cursor.rest
  { l with keyAllowed, cursor }

/-- Ends all blocks, as directives, document marks and the end of the text do. -/
def leaveBlocks (l : Lexer) : Except Error Lexer := do
  let l ← (l.closeBlocks (-1)).dropKey
  return { l with keyAllowed := false }

def directive (l : Lexer) : Except Error Lexer := do
  let l ← l.leaveBlocks
  let (token, cursor) ← Property.readDirective l.cursor
  return { l with cursor }.add token

def documentMark (l : Lexer) (t : Token) : Except Error Lexer := do
  let l ← l.leaveBlocks
  return (l.skip 3).add t

/-- Reads an opening bracket, which may start a key. -/
def openFlow (l : Lexer) (t : Token) : Except Error Lexer := do
  let l ← l.offerKey
  return { (l.skip 1).add t with keys := none :: l.keys, keyAllowed := true }

/-- Reads a closing bracket. -/
def closeFlow (l : Lexer) (t : Token) : Except Error Lexer := do
  let l ← l.dropKey
  return { (l.skip 1).add t with
    keys := if l.inFlow then l.keys.tail else l.keys, keyAllowed := false }

/-- Reads a comma. -/
def flowEntry (l : Lexer) : Except Error Lexer := do
  let l ← l.dropKey
  return { (l.skip 1).add .flowEntry with keyAllowed := true }

/-- Reads a dash, which may open a block sequence. -/
def blockEntry (l : Lexer) : Except Error Lexer :=
  if !l.inFlow && !l.keyAllowed then l.fail .misplacedEntry
  else do
    let l ← (l.openBlock l.column l.count .blockSequenceStart).dropKey
    return { (l.skip 1).add .blockEntry with keyAllowed := true }

/-- Reads a question mark, which may open a block mapping. -/
def explicitKey (l : Lexer) : Except Error Lexer :=
  if !l.inFlow && !l.keyAllowed then l.fail .misplacedKey
  else do
    let l ← (l.openBlock l.column l.count .blockMappingStart).dropKey
    return { (l.skip 1).add .key with keyAllowed := !l.inFlow }

/-- Reads a colon: it makes the innermost candidate a key, which may open a block mapping; without
one it is the value of a key that is marked as such or left out. -/
def value (l : Lexer) : Except Error Lexer :=
  match l.keys with
  | some key :: keys =>
    let l := (l.addAt key.tokensBefore .key).openBlock key.mark.column key.tokensBefore
      .blockMappingStart
    .ok { (l.skip 1).add .value with keys := none :: keys, keyAllowed := false }
  | _ =>
    if !l.inFlow && !l.keyAllowed then l.fail .misplacedValue
    else
      let l := l.openBlock l.column l.count .blockMappingStart
      .ok { (l.skip 1).add .value with keyAllowed := !l.inFlow }

/-- Reads an alias, an anchor or a tag, which may start a key. -/
def property (l : Lexer) (read : Cursor → Except Error (Token × Cursor)) : Except Error Lexer := do
  let l ← l.offerKey
  let (token, cursor) ← read l.cursor
  return { l with cursor, keyAllowed := false }.add token

/-- Reads a block scalar, which is no key. -/
def blockScalar (l : Lexer) (literal : Bool) : Except Error Lexer := do
  let l ← l.dropKey
  let (text, cursor) ← Block.read literal l.indent l.cursor
  return { l with cursor, keyAllowed := true }.add
    (.scalar (if literal then .literal else .folded) text)

/-- Reads a quoted scalar, which may be a key. -/
def quotedScalar (l : Lexer) (single : Bool) : Except Error Lexer := do
  let l ← l.offerKey
  let (text, cursor) ← Quoted.read single l.cursor
  return { l with cursor, keyAllowed := false }.add
    (.scalar (if single then .singleQuoted else .doubleQuoted) text)

/-- Reads a plain scalar, which may be a key. -/
def plainScalar (l : Lexer) : Except Error Lexer := do
  let l ← l.offerKey
  let (text, lineEnded, cursor) ← Plain.read l.inFlow (l.indent + 1) l.cursor
  return { l with cursor, keyAllowed := lineEnded }.add (.scalar .plain text)

/-- Reads the name of an alias or anchor. -/
def named (make : List Char → Token) (c : Cursor) : Except Error (Token × Cursor) := do
  let (name, after) ← Property.readName c
  return (make name, after)

/-- Reads the token that starts with the next character `c`, behind which `rest` stands. -/
def token (l : Lexer) (c : Char) (rest : List Char) : Except Error Lexer :=
  if l.column == 0 && c == '%' then l.directive
  else if l.column == 0 && atDocumentMark (c :: rest) then
    l.documentMark (if c == '-' then .documentStart else .documentEnd)
  else
    match c with
    | '[' => l.openFlow .flowSequenceStart
    | '{' => l.openFlow .flowMappingStart
    | ']' => l.closeFlow .flowSequenceEnd
    | '}' => l.closeFlow .flowMappingEnd
    | ',' => l.flowEntry
    | '-' => if atSeparator rest then l.blockEntry else l.plainScalar
    | '?' => if l.inFlow || atSeparator rest then l.explicitKey else l.plainScalar
    | ':' => if l.inFlow || atSeparator rest then l.value else l.plainScalar
    | '*' => l.property (named .alias)
    | '&' => l.property (named .anchor)
    | '!' => l.property (Property.readTag l.inFlow)
    | '|' => if l.inFlow then l.fail .strayCharacter else l.blockScalar true
    | '>' => if l.inFlow then l.fail .strayCharacter else l.blockScalar false
    | '\'' => l.quotedScalar true
    | '"' => l.quotedScalar false
    | '%' | '@' | '\u0060' | '\t' => l.fail .strayCharacter
    | _ => l.plainScalar

def finish (l : Lexer) : Except Error (List Token) := do
  let l ← l.leaveBlocks
  return (l.add .streamEnd).tokens.reverse

/-- Reads tokens to the end of the text, of which each takes at least one character. -/
def run : Nat → Lexer → Except Error (List Token)
  | 0, l => l.fail .unreadable
  | fuel + 1, l => do
    let l ← l.skipSpace.expireKeys
    match l.cursor.rest with
    | [] => (l.closeBlocks l.column).finish
    | c :: rest =>
      let l ← (l.closeBlocks l.column).token c rest
      run fuel l

end Lexer

/-- The first character that may not stand in a document. -/
def forbidden? (cs : List Char) : Option Char := cs.find? (!isAllowed ·)

/-- The tokens of a text. -/
def Token.ofChars (cs : List Char) : Except Error (List Token) :=
  match forbidden? cs with
  | some c => .error (.forbiddenCharacter c)
  | none => (Lexer.start (unifyBreaks cs)).run (cs.length + 1)

end DriverValidation.Yaml
