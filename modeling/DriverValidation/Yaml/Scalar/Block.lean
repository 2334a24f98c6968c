import DriverValidation.Yaml.Error

/-!
Block scalars: lines of text under a header, indented further than the block they stand in. The
header may give the indentation and says what becomes of the line breaks at the end; in a folded
scalar a single break between two lines that start with a word becomes a space.
-/

namespace DriverValidation.Yaml.Block

/-- What becomes of the line breaks at the end: all but the first go, all go, or all stay. -/
inductive Chomping where
  | clip
  | strip
  | keep
  deriving Repr, DecidableEq

/-- What stands behind the indicator of a block scalar. -/
structure Header where
  chomping : Chomping
  increment : Option Nat
  deriving Repr, DecidableEq

/-- The chomping that a sign asks for. -/
def chomping? : Char → Option Chomping
  | '+' => some .keep
  | '-' => some .strip
  | _ => none

/-- The chomping sign at a place. -/
def readChomping (c : Cursor) : Option Chomping × Cursor :=
  match c.peek?.bind chomping? with
  | some chomping => (some chomping, c.skip)
  | none => (none, c)

/-- The indentation digit at a place; zero is none. -/
def readIncrement (c : Cursor) : Except Error (Option Nat × Cursor) :=
  match c.peek? with
  | some d =>
    if d == '0' then .error (.malformed .zeroIndentation c.mark)
    else if d.isDigit then .ok (some (d.toNat - '0'.toNat), c.skip)
    else .ok (none, c)
  | none => .ok (none, c)

/-- Reads sign and digit of a header, in either order. -/
def readHeader (c : Cursor) : Except Error (Header × Cursor) :=
  match readChomping c with
  | (some chomping, after) => do
    let (increment, after) ← readIncrement after
    return (⟨chomping, increment⟩, after)
  | (none, after) => do
    let (increment, after) ← readIncrement after
    let (chomping, after) := if increment.isSome then readChomping after else (none, after)
    return (⟨chomping.getD .clip, increment⟩, after)

/-- Passes over spaces and a comment to the next line. -/
def finishLine (c : Cursor) : Except Error Cursor :=
  let c := c.skipWhile isGap
  let c := if c.peek? == some '#' then c.skipWhile (!isBreak ·) else c
  if atLineEnd c.rest then .ok c.skip
  else .error (.malformed .trailingCharacters c.mark)

/-- What has been read of a block scalar. `text`, `lead` and `trail` hold the text, the break after
its last line and the breaks of the empty lines after that, last character first; `startsBlank`
says whether the last line starts with a space or a tab; `deepest` is the greatest column met in
the empty lines before the first line. -/
structure Partial where
  text : List Char
  lead : List Char
  trail : List Char
  startsBlank : Bool
  deepest : Nat
  deriving Repr, DecidableEq

def Partial.empty : Partial := ⟨[], [], [], false, 0⟩

/-- A new line starts with the character `c`. -/
def Partial.startLine (literal : Bool) (p : Partial) (c : Char) : Partial :=
  let text :=
    if !literal && p.lead == ['\n'] && !p.startsBlank && !isGap c then
      if p.trail.isEmpty then ' ' :: p.text else p.trail ++ p.text
    else p.trail ++ (p.lead ++ p.text)
  ⟨c :: text, [], [], isGap c, p.deepest⟩

def Partial.close (chomping : Chomping) (p : Partial) : List Char :=
  match chomping with
  | .strip => p.text.reverse
  | .clip => (p.lead ++ p.text).reverse
  | .keep => (p.trail ++ (p.lead ++ p.text)).reverse

/-- Reads on, inside a line of text or in the white space before one. `indent` is the number of
columns by which the text is indented, absent until the first line tells it, and `least` the least
number it may tell. -/
def readFrom (literal : Bool) (least : Nat) (inLine : Bool) (indent : Option Nat) (done : Partial)
    (mark : Mark) : List Char → Except Error (Partial × Cursor)
  | [] => .ok (done, ⟨mark, []⟩)
  | c :: rest =>
    if inLine then
      if isBreak c then
        readFrom literal least false indent { done with lead := [c] } (mark.after c) rest
      else
        readFrom literal least true indent { done with text := c :: done.text } (mark.after c) rest
    else if c == ' ' && indent.all (mark.column < ·) then
      readFrom literal least false indent done (mark.after c) rest
    else if c == '\t' && indent.all (mark.column < ·) then
      .error (.malformed .tabInIndentation mark)
    else if isBreak c then
      readFrom literal least false indent
        { done with trail := c :: done.trail, deepest := max done.deepest mark.column }
        (mark.after c) rest
    else
      let columns := indent.getD (max least (max done.deepest mark.column))
      if mark.column == columns then
        readFrom literal least true (some columns) (done.startLine literal c) (mark.after c) rest
      else .ok (done, ⟨mark, c :: rest⟩)

/-- Reads the block scalar whose indicator stands at a place, in a block indented by `indent`
columns (a negative number outside of all blocks): its text and the place after it. -/
def read (literal : Bool) (indent : Int) (c : Cursor) : Except Error (List Char × Cursor) := do
  let (header, after) ← readHeader c.skip
  let after ← finishLine after
  let columns := header.increment.map fun n => (max indent 0).toNat + n
  let (done, after) ←
    readFrom literal (max (indent + 1) 1).toNat false columns .empty after.mark after.rest
  return (done.close header.chomping, after)

end DriverValidation.Yaml.Block
