import DriverValidation.Yaml.Character

/-!
A place in a document: how many bytes and lines come before it, its column, and the characters
that follow.  Bytes are those of the document's UTF-8 form, and a column is a character.
-/

namespace DriverValidation.Yaml

/-- Where a character stands: the bytes before it, the lines before it, and the characters before it
on its line. -/
structure Mark where
  index : Nat
  line : Nat
  column : Nat
  deriving Repr, DecidableEq

def Mark.after (m : Mark) (c : Char) : Mark :=
  if isBreak c then ⟨m.index + c.utf8Size, m.line + 1, 0⟩
  else ⟨m.index + c.utf8Size, m.line, m.column + 1⟩

/-- A place in a document and what follows it. -/
structure Cursor where
  mark : Mark
  rest : List Char
  deriving Repr, DecidableEq

namespace Cursor

def ofChars (cs : List Char) : Cursor := ⟨⟨0, 0, 0⟩, cs⟩

def skip : Cursor → Cursor
  | ⟨m, []⟩ => ⟨m, []⟩
  | ⟨m, c :: rest⟩ => ⟨m.after c, rest⟩

def skipMany : Nat → Cursor → Cursor
  | 0, c => c
  | n + 1, c => skipMany n c.skip

/-- The characters from `mark` on that pass a test, and the place after them. -/
def spanFrom (p : Char → Bool) (mark : Mark) : List Char → List Char × Cursor
  | [] => ([], ⟨mark, []⟩)
  | c :: rest =>
    if p c then
      let (taken, after) := spanFrom p (mark.after c) rest
      (c :: taken, after)
    else ([], ⟨mark, c :: rest⟩)

/-- The next characters that pass a test, and the place after them. -/
def span (p : Char → Bool) (c : Cursor) : List Char × Cursor := spanFrom p c.mark c.rest

/-- The place after the next characters that pass a test. -/
def skipWhile (p : Char → Bool) (c : Cursor) : Cursor := (c.span p).2

def peek? (c : Cursor) : Option Char := c.rest.head?

end Cursor

end DriverValidation.Yaml
