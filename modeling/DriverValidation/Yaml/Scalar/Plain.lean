import DriverValidation.Yaml.Error
import DriverValidation.Yaml.Scalar.Gap

/-!
Plain scalars: words without quotes, over one or more lines. Such a scalar ends before a comment,
before a colon that stands for a value, before the brackets and commas of a flow collection it
stands in, at a document mark, and where the lines are no longer indented.
-/

namespace DriverValidation.Yaml.Plain

/-- What has been read of a plain scalar: its text, last character first, and the separators after
it. -/
structure Partial where
  text : List Char
  gap : Gap
  deriving Repr, DecidableEq

def Partial.empty : Partial := ⟨[], .none⟩

/-- A further character of a word. -/
def Partial.push (p : Partial) (c : Char) : Partial :=
  ⟨c :: (p.gap.folded ++ p.text), .none⟩

/-- A word goes no further: the text goes on with the sign of a value, or, in a flow collection,
with one of its indicators. -/
def endsWord (inFlow : Bool) : List Char → Bool
  | [] => true
  | c :: rest => (c == ':' && atSeparator rest) || (inFlow && isFlowIndicator c)

/-- In a flow collection a colon stands directly before an indicator. -/
def colonBeforeIndicator (inFlow : Bool) : List Char → Bool
  | ':' :: c :: _ => inFlow && (isFlowIndicator c || c == '?')
  | _ => false

/-- No further word may start here: the line is not indented to `indent` columns, or a document
mark or a comment stands here. -/
def endsScalar (inFlow : Bool) (indent : Int) (mark : Mark) (rest : List Char) : Bool :=
  (!inFlow && (mark.column : Int) < indent) || (mark.column == 0 && atDocumentMark rest) ||
    rest.head? == some '#'

/-- Reads on from `mark`, `done` being read already. -/
def readFrom (inFlow : Bool) (indent : Int) (done : Partial) (mark : Mark) :
    List Char → Except Error (Partial × Cursor)
  | [] => .ok (done, ⟨mark, []⟩)
  | c :: rest =>
    if isBreak c then
      readFrom inFlow indent { done with gap := done.gap.addBreak c } (mark.after c) rest
    else if isGap c then
      if done.gap.broken && (mark.column : Int) < indent && c == '\t' then
        .error (.malformed .tabInIndentation mark)
      else
        readFrom inFlow indent { done with gap := done.gap.addBlank c } (mark.after c) rest
    else if done.gap.isOpen && endsScalar inFlow indent mark (c :: rest) then
      .ok (done, ⟨mark, c :: rest⟩)
    else if colonBeforeIndicator inFlow (c :: rest) then
      .error (.malformed .colonInFlow mark)
    else if endsWord inFlow (c :: rest) then
      .ok (done, ⟨mark, c :: rest⟩)
    else readFrom inFlow indent (done.push c) (mark.after c) rest

/-- Reads the plain scalar at a place, in a block that is indented to `indent` columns: its text,
whether a line ended after its last word, and the place after it. -/
def read (inFlow : Bool) (indent : Int) (c : Cursor) : Except Error (List Char × Bool × Cursor) := do
  let (done, after) ← readFrom inFlow indent .empty c.mark c.rest
  return (done.text.reverse, done.gap.broken, after)

end DriverValidation.Yaml.Plain
