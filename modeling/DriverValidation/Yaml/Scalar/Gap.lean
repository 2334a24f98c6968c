import DriverValidation.Yaml.Cursor

/-!
The separators between two words of a scalar, and what is left of them when the lines of the scalar
are folded into one text.
-/

namespace DriverValidation.Yaml

/-- The separators met since the last word: the spaces and tabs of the line of that word, and, once
the line has ended, its break and the breaks of the empty lines after it, latest first. A line that
ends in an escape has an empty `lead`. -/
structure Gap where
  broken : Bool
  blanks : List Char
  lead : List Char
  trail : List Char
  deriving Repr, DecidableEq

namespace Gap

def none : Gap := ⟨false, [], [], []⟩

/-- At least one separator was met. -/
def isOpen (g : Gap) : Bool := g.broken || !g.blanks.isEmpty

/-- A further space or tab; after a break it is indentation and leaves no trace. -/
def addBlank (g : Gap) (c : Char) : Gap :=
  if g.broken then g else { g with blanks := c :: g.blanks }

/-- A further line break; the first one removes the spaces before it. -/
def addBreak (g : Gap) (c : Char) : Gap :=
  if g.broken then { g with trail := c :: g.trail } else ⟨true, [], [c], []⟩

def escaped : Gap := ⟨true, [], [], []⟩

/-- What the separators become between two words, last character first: spaces stay, a single line
feed becomes a space, and of several breaks the first is dropped where it is a line feed. -/
def folded (g : Gap) : List Char :=
  if g.broken then
    if g.lead == ['\n'] then
      if g.trail.isEmpty then [' '] else g.trail
    else g.trail ++ g.lead
  else g.blanks

end Gap

end DriverValidation.Yaml
