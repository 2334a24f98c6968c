/-!
The patterns of the shell: characters, any character, any text, and sets of characters. Quoted
characters stand for themselves.
-/

namespace DriverValidation.Shell

/-- A set of characters in a pattern: ranges and named classes. -/
structure GlobSet where
  negated : Bool
  ranges : List (Char × Char)
  classes : List String
  deriving Repr, DecidableEq

/-- A sign of a pattern. -/
inductive GlobSign where
  | char (c : Char)
  | any
  | many
  | oneOf (s : GlobSet)
  deriving Repr, DecidableEq

def inClass (c : Char) (name : String) : Bool :=
  match name with
  | "alpha" => c.isAlpha
  | "digit" => c.isDigit
  | "alnum" => c.isAlphanum
  | "upper" => c.isUpper
  | "lower" => c.isLower
  | "space" => c == ' ' || (9 ≤ c.toNat && c.toNat ≤ 13)
  | "blank" => c == ' ' || c == '\t'
  | "xdigit" => c.isDigit || ('a' ≤ c && c ≤ 'f') || ('A' ≤ c && c ≤ 'F')
  | "punct" => 33 ≤ c.toNat && c.toNat ≤ 126 && !c.isAlphanum
  | "cntrl" => c.toNat < 32 || c.toNat == 127
  | "print" => 32 ≤ c.toNat && c.toNat ≤ 126
  | "graph" => 33 ≤ c.toNat && c.toNat ≤ 126
  | _ => false

/-- The character belongs to a set. -/
def GlobSet.accepts (s : GlobSet) (c : Char) : Bool :=
  (s.ranges.any (fun (a, b) => a ≤ c && c ≤ b) || s.classes.any (inClass c)) != s.negated

namespace Glob

/-- Reads a set behind its opening bracket and the sign that negates it; characters are given with
whether they are quoted. Nothing is read if the set is not closed. -/
def readSet (negated first : Bool) (ranges : List (Char × Char)) (classes : List String) :
    Nat → List (Char × Bool) → Option (GlobSet × List (Char × Bool))
  | 0, _ => none
  | fuel + 1, cs =>
    match cs with
    | [] => none
    | (']', false) :: rest =>
      if first then readSet negated false ((']', ']') :: ranges) classes fuel rest
      else some (⟨negated, ranges, classes⟩, rest)
    | ('[', false) :: (':', _) :: rest =>
      let name := rest.takeWhile (·.1 != ':')
      match rest.dropWhile (·.1 != ':') with
      | (':', _) :: (']', _) :: after =>
        readSet negated false ranges (String.ofList (name.map (·.1)) :: classes) fuel after
      | _ => readSet negated false (('[', '[') :: ranges) classes fuel ((':', false) :: rest)
    | (a, _) :: ('-', false) :: (b, q) :: rest =>
      if b == ']' && !q then
        readSet negated false ((a, a) :: ranges) classes fuel (('-', true) :: (b, q) :: rest)
      else readSet negated false ((a, b) :: ranges) classes fuel rest
    | (a, _) :: rest => readSet negated false ((a, a) :: ranges) classes fuel rest

/-- Reads a pattern, whose characters are given with whether they are quoted. -/
def read : Nat → List (Char × Bool) → List GlobSign
  | 0, _ => []
  | _ + 1, [] => []
  | fuel + 1, ('*', false) :: rest => .many :: read fuel rest
  | fuel + 1, ('?', false) :: rest => .any :: read fuel rest
  | fuel + 1, ('[', false) :: rest =>
    let set :=
      match rest with
      | ('!', false) :: inside => readSet true true [] [] (inside.length + 1) inside
      | inside => readSet false true [] [] (inside.length + 1) inside
    match set with
    | some (s, after) => .oneOf s :: read fuel after
    | none => .char '[' :: read fuel rest
  | fuel + 1, (c, _) :: rest => .char c :: read fuel rest

def ofChars (cs : List (Char × Bool)) : List GlobSign := read (cs.length + 1) cs

/-- The ends of a text, longest first. -/
def suffixes : List Char → List (List Char)
  | [] => [[]]
  | c :: cs => (c :: cs) :: suffixes cs

def fits : List GlobSign → List Char → Bool
  | [], cs => cs.isEmpty
  | .many :: signs, cs => (suffixes cs).any (fits signs)
  | .char d :: signs, c :: cs => c == d && fits signs cs
  | .any :: signs, _ :: cs => fits signs cs
  | .oneOf s :: signs, c :: cs => s.accepts c && fits signs cs
  | _, [] => false

/-- The text without the shortest or longest start that a pattern fits. -/
def cutStart (longest : Bool) (signs : List GlobSign) (cs : List Char) : List Char :=
  let lengths := List.range (cs.length + 1)
  let lengths := if longest then lengths.reverse else lengths
  match lengths.find? fun n => fits signs (cs.take n) with
  | some n => cs.drop n
  | none => cs

/-- The text without the shortest or longest end that a pattern fits. -/
def cutEnd (longest : Bool) (signs : List GlobSign) (cs : List Char) : List Char :=
  let lengths := List.range (cs.length + 1)
  let lengths := if longest then lengths else lengths.reverse
  match lengths.find? fun n => fits signs (cs.drop n) with
  | some n => cs.take n
  | none => cs

end Glob

end DriverValidation.Shell
