import DriverValidation.Regex.Basic
import DriverValidation.Text.Blank
import DriverValidation.Text.Code

/-!
Reading escapes and sets in brackets. Where blanks are ignored, white space and comments count only
behind a backslash. The text of an expression has no closing brace behind an opening one, so what
stands in braces is never complete.
-/

namespace DriverValidation.Regex

/-- The text behind white space and comments, the first of which may have started already. -/
def skipBlanks (inComment : Bool) : List Char → List Char
  | [] => []
  | c :: cs =>
    if inComment then skipBlanks (c != '\n') cs
    else if Text.isBlank c then skipBlanks false cs
    else if c == '#' then skipBlanks true cs
    else c :: cs

/-- The text that counts. -/
def skip (ignoreBlanks : Bool) (cs : List Char) : List Char :=
  if ignoreBlanks then skipBlanks false cs else cs

/-- The character that a letter behind a backslash stands for. -/
def control? : Char → Option Char
  | 'a' => some '\x07'
  | 'f' => some '\x0c'
  | 't' => some '\t'
  | 'n' => some '\n'
  | 'r' => some '\r'
  | 'v' => some '\x0b'
  | _ => none

/-- Reads the value of some digits in base sixteen. -/
def readHex (ignoreBlanks : Bool) : Nat → Nat → List Char → Option (Nat × List Char)
  | 0, value, cs => some (value, cs)
  | digits + 1, value, cs =>
    match skip ignoreBlanks cs with
    | [] => none
    | c :: cs => do
      let digit ← Text.hexDigit? c
      readHex ignoreBlanks digits (value * 16 + digit) cs

/-- Reads a character that is given by its number. -/
def readCode (ignoreBlanks : Bool) (digits : Nat) (cs : List Char) : Option (Regex × List Char) := do
  let (value, cs) ← readHex ignoreBlanks digits 0 cs
  return (.literal ⟨← Text.character? value, digits == 2⟩, cs)

def readEscape (ignoreBlanks : Bool) : List Char → Option (Regex × List Char)
  | [] => none
  | c :: cs =>
    match c with
    | 'x' => readCode ignoreBlanks 2 cs
    | 'u' => readCode ignoreBlanks 4 cs
    | 'U' => readCode ignoreBlanks 8 cs
    | 'p' | 'P' =>
      match skip ignoreBlanks cs with
      | [] => none
      | name :: cs => if name == '\x7b' || name == '\\' then none else some (.set .property, cs)
    | 'd' | 's' | 'w' => some (.set (.kind false), cs)
    | 'D' | 'S' | 'W' => some (.set (.kind true), cs)
    | 'A' | 'z' => some (.lineBound, cs)
    | 'b' | 'B' | '<' | '>' => some (.wordBound, cs)
    | c =>
      match control? c with
      | some e => some (.literal ⟨e, false⟩, cs)
      | none =>
        if c.toNat < 128 && !c.isAlphanum then some (.literal ⟨c, false⟩, cs) else none

def readMember (ignoreBlanks : Bool) : List Char → Option (Regex × List Char)
  | [] => none
  | '\\' :: cs => readEscape ignoreBlanks cs
  | c :: cs => some (.literal ⟨c, false⟩, cs)

/-- The set that a member stands for, if it can stand in one. -/
def CharSet.ofMember? : Regex → Option CharSet
  | .literal l => some (.literal l)
  | .set s => some s
  | _ => none

/-- The character behind white space and the start of a comment, or the next one if there is none. -/
def peek (ignoreBlanks : Bool) (cs : List Char) : Option Char :=
  if ignoreBlanks then
    let behind :=
      match cs.dropWhile Text.isBlank with
      | '#' :: rest => rest.dropWhile Text.isBlank
      | rest => rest
    behind.head?.or cs.head?
  else cs.head?

/-- Reads a member of a set or a range of them. -/
def readRange (ignoreBlanks : Bool) (cs : List Char) : Option (CharSet × List Char) := do
  let (first, cs) ← readMember ignoreBlanks cs
  match skip ignoreBlanks cs with
  | [] => none
  | c :: rest =>
    let next := peek ignoreBlanks rest
    if c != '-' || next == some ']' || next == some '-' then
      return (← CharSet.ofMember? first, c :: rest)
    else
      match first, ← readMember ignoreBlanks (skip ignoreBlanks rest) with
      | .literal a, (.literal b, cs) => if a.char ≤ b.char then return (.range a b, cs) else none
      | _, _ => none

def setNames : List String :=
  ["alnum", "alpha", "ascii", "blank", "cntrl", "digit", "graph", "lower", "print", "punct", "space",
    "upper", "word", "xdigit"]

/-- Reads the name of a set between colons and brackets, of which the first was read. -/
def readName? : List Char → Option (CharSet × List Char)
  | ':' :: cs =>
    let (negated, cs) :=
      match cs with
      | '^' :: cs => (true, cs)
      | cs => (false, cs)
    match cs.dropWhile (· != ':') with
    | ':' :: ']' :: rest =>
      if setNames.contains (String.ofList (cs.takeWhile (· != ':'))) then
        some (.named negated, rest)
      else none
    | _ => none
  | _ => none

/-- The set that some members make together, the latest of which stands first. -/
def CharSet.ofMembers : List CharSet → CharSet
  | [] => .nothing
  | [s] => s
  | ss => .union ss.reverse

/-- What an operator makes of the set before it, if there is one, and that behind it. -/
def CharSet.join (left : Option CharSet) (right : CharSet) : CharSet :=
  match left with
  | some left => .operation left right
  | none => right

/-- Reads minus signs at the start of a set, which stand for themselves. -/
def readMinuses (ignoreBlanks : Bool) : Nat → List Char → List CharSet × List Char
  | 0, cs => ([], cs)
  | fuel + 1, '-' :: cs =>
    let (members, cs) := readMinuses ignoreBlanks fuel (skip ignoreBlanks cs)
    (.literal ⟨'-', false⟩ :: members, cs)
  | _, cs => ([], cs)

/-- Reads the start of a set behind its opening bracket: whether it is negated, and the members that
can stand only there. -/
def readStart (ignoreBlanks : Bool) (cs : List Char) : Bool × List CharSet × List Char :=
  let cs := skip ignoreBlanks cs
  let (negated, cs) :=
    match cs with
    | '^' :: cs => (true, skip ignoreBlanks cs)
    | cs => (false, cs)
  match readMinuses ignoreBlanks cs.length cs with
  | ([], ']' :: cs) => (negated, [.literal ⟨']', false⟩], skip ignoreBlanks cs)
  | (members, cs) => (negated, members, cs)

mutual

/-- Reads a set behind its opening bracket. -/
def readSet (ignoreBlanks : Bool) : Nat → List Char → Option (CharSet × List Char)
  | 0, _ => none
  | fuel + 1, cs => do
    let (negated, members, cs) := readStart ignoreBlanks cs
    let (inside, cs) ← readMembers ignoreBlanks fuel none members cs
    return (.bracketed negated inside, cs)

/-- Reads the members of a set up to its closing bracket, behind those of them that were read, latest
first, and what stands before an operator. -/
def readMembers (ignoreBlanks : Bool) :
    Nat → Option CharSet → List CharSet → List Char → Option (CharSet × List Char)
  | 0, _, _, _ => none
  | fuel + 1, left, members, cs =>
    match skip ignoreBlanks cs with
    | [] => none
    | ']' :: cs => some (CharSet.join left (.ofMembers members), cs)
    | '&' :: '&' :: cs | '-' :: '-' :: cs | '~' :: '~' :: cs =>
      readMembers ignoreBlanks fuel (some (CharSet.join left (.ofMembers members))) [] cs
    | '[' :: cs => do
      let (s, cs) ← (readName? cs).or (readSet ignoreBlanks fuel cs)
      readMembers ignoreBlanks fuel left (s :: members) cs
    | cs => do
      let (s, cs) ← readRange ignoreBlanks cs
      readMembers ignoreBlanks fuel left (s :: members) cs

end

end DriverValidation.Regex
