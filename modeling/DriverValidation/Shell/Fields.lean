/-!
The fields of a word: what its pieces stand for, split where values that are not quoted hold
separators. Separators that are white space count once where several stand together and not at all at
the ends; each other one ends a field.
-/

namespace DriverValidation.Shell

/-- What a piece of a word stands for: text, a value that may be split, or the end of a field. -/
inductive Segment where
  | text (cs : List Char) (quoted : Bool)
  | value (cs : List Char)
  | break
  deriving Repr, DecidableEq

/-- The characters of a field, with whether they are quoted. -/
abbrev Field := List (Char × Bool)

/-- The fields that were made, latest first, the one that goes on, if there is one, with its last
character first, and whether the last one was ended by white space. -/
structure Fields where
  done : List Field
  current : Option Field
  afterBlank : Bool
  deriving Repr, DecidableEq

namespace Fields

def none : Fields := ⟨[], .none, false⟩

def add (p : Fields) (cs : Field) : Fields :=
  { p with current := some (cs.reverse ++ p.current.getD []), afterBlank := false }

def finish (p : Fields) : Fields :=
  match p.current with
  | some cs => { p with done := cs.reverse :: p.done, current := .none }
  | .none => p

/-- The fields after a character of a value, given the separators. -/
def split (separators : List Char) (p : Fields) (c : Char) : Fields :=
  if !separators.contains c then p.add [(c, false)]
  else if c == ' ' || c == '\t' || c == '\n' then
    if p.current.isSome then { p.finish with afterBlank := true } else p
  else if p.current.isSome then { p.finish with afterBlank := false }
  else if p.afterBlank then { p with afterBlank := false }
  else { p with done := [] :: p.done }

def put (separators : List Char) (p : Fields) : Segment → Fields
  | .text cs quoted => p.add (cs.map (·, quoted))
  | .value cs => cs.foldl (split separators) p
  | .break => { p.finish with afterBlank := false }

def ofSegments (separators : List Char) (segments : List Segment) : List Field :=
  ((segments.foldl (put separators) none).finish).done.reverse

end Fields

/-- The characters of some segments without splitting them; fields that end are told apart by
spaces. -/
def Segment.joined (segments : List Segment) : Field :=
  segments.flatMap fun s =>
    match s with
    | .text cs quoted => cs.map (·, quoted)
    | .value cs => cs.map (·, false)
    | .break => [(' ', true)]

def Field.text (f : Field) : String := String.ofList (f.map (·.1))

end DriverValidation.Shell
