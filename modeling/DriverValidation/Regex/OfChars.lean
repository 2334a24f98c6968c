import DriverValidation.Regex.Bracket
import DriverValidation.Text.Letter

/-!
Reading a regular expression from its characters. Groups that are still open are kept with what stands
before them.
-/

namespace DriverValidation.Regex

/-- A group that is not closed yet: the flags it changes, and what was read before it, in which blanks
may have been ignored. -/
structure OpenGroup where
  change : FlagChange
  parts : List Regex
  alternatives : List Regex
  ignoreBlanks : Bool
  deriving Repr

/-- What was read: the parts of the latest alternative and the alternatives before it, latest first,
the groups around them, the names of groups, and the text that follows. -/
structure Reading where
  parts : List Regex
  alternatives : List Regex
  groups : List OpenGroup
  names : List (List Char)
  ignoreBlanks : Bool
  rest : List Char
  deriving Repr

namespace Reading

def start (cs : List Char) : Reading := ⟨[], [], [], [], false, cs⟩

/-- The parts of the latest alternative together. -/
def latest (r : Reading) : Regex :=
  match r.parts with
  | [] => .empty
  | [part] => part
  | parts => .concatenation parts.reverse

/-- All that was read in the innermost group. -/
def whole (r : Reading) : Regex :=
  if r.alternatives.isEmpty then r.latest
  else .alternation (r.latest :: r.alternatives).reverse

/-- A part was read, behind which some text follows. -/
def add (r : Reading) (part : Regex) (rest : List Char) : Reading :=
  { r with parts := part :: r.parts, rest }

def openGroup (r : Reading) (change : FlagChange) (rest : List Char) : Reading :=
  { r with
    parts := []
    alternatives := []
    groups := ⟨change, r.parts, r.alternatives, r.ignoreBlanks⟩ :: r.groups
    ignoreBlanks := change.apply .ignoreBlanks r.ignoreBlanks
    rest }

/-- The innermost group was closed, if there is one. -/
def closeGroup? (r : Reading) (rest : List Char) : Option Reading :=
  match r.groups with
  | [] => none
  | g :: groups =>
    some { r with
      parts := .group g.change r.whole :: g.parts
      alternatives := g.alternatives
      groups
      ignoreBlanks := g.ignoreBlanks
      rest }

/-- The latest part was repeated, if it can be; a question mark may follow that makes the repetition
as short as possible. -/
def repeat? (r : Reading) (rest : List Char) : Option Reading :=
  let rest :=
    match rest with
    | '?' :: rest => rest
    | rest => rest
  match r.parts with
  | [] | .flags _ :: _ => none
  | part :: parts => some { r with parts := .repetition part :: parts, rest }

end Reading

def Flag.ofChar? : Char → Option Flag
  | 'i' => some .ignoreCase
  | 'm' => some .multiLine
  | 's' => some .dotMatchesBreaks
  | 'U' => some .swapGreed
  | 'u' => some .unicode
  | 'R' => some .carriageReturns
  | 'x' => some .ignoreBlanks
  | _ => none

/-- Reads flags, those behind a minus sign being switched off, up to a colon or bracket. -/
def readFlags (minus : Bool) (change : FlagChange) :
    List Char → Option (FlagChange × Char × List Char)
  | [] => none
  | c :: cs =>
    if c == ':' || c == ')' then
      if minus && change.off.isEmpty then none else some (change, c, cs)
    else if c == '-' then if minus then none else readFlags true change cs
    else
      match Flag.ofChar? c with
      | none => none
      | some flag =>
        if change.on.contains flag || change.off.contains flag then none
        else if minus then readFlags minus ⟨change.on, flag :: change.off⟩ cs
        else readFlags minus ⟨flag :: change.on, change.off⟩ cs

def isNameChar (first : Bool) (c : Char) : Bool :=
  c == '_' ||
    if first then Text.isLetter c
    else c == '.' || c == '[' || c == ']' || Text.isLetterOrNumber c

/-- Reads the name of a group up to its closing angle bracket. -/
def readGroupName (cs : List Char) : Option (List Char × List Char) :=
  let name := cs.takeWhile (· != '>')
  match name, cs.dropWhile (· != '>') with
  | c :: more, _ :: rest =>
    if isNameChar true c && more.all (isNameChar false) then some (name, rest) else none
  | _, _ => none

/-- Opens a group that has a name, which no other group has. -/
def Reading.openNamed? (r : Reading) (cs : List Char) : Option Reading := do
  let (name, rest) ← readGroupName cs
  if r.names.contains name then none
  else return { r with names := name :: r.names }.openGroup .none rest

/-- Reads on behind an opening bracket: what looks ahead or behind is no expression. -/
def Reading.bracket? (r : Reading) (cs : List Char) : Option Reading :=
  match skip r.ignoreBlanks cs with
  | '?' :: '=' :: _ | '?' :: '!' :: _ | '?' :: '<' :: '=' :: _ | '?' :: '<' :: '!' :: _ => none
  | '?' :: 'P' :: '<' :: cs | '?' :: '<' :: cs => r.openNamed? cs
  | '?' :: cs => do
    let (change, last, rest) ← readFlags false .none cs
    if last == ':' then return r.openGroup change rest
    else if change.isNone then none
    else
      return { r with ignoreBlanks := change.apply .ignoreBlanks r.ignoreBlanks }.add
        (.flags change) rest
  | cs => some (r.openGroup .none cs)

/-- Reads on by one part or sign, which starts with a character. -/
def Reading.step? (r : Reading) (c : Char) (cs : List Char) : Option Reading :=
  match c with
  | '(' => r.bracket? cs
  | ')' => r.closeGroup? cs
  | '|' => some { r with parts := [], alternatives := r.latest :: r.alternatives, rest := cs }
  | '[' => do
    let (s, rest) ← readSet r.ignoreBlanks (2 * cs.length + 2) cs
    return r.add (.set s) rest
  | '?' | '*' | '+' => r.repeat? cs
  | '\x7b' => none
  | '\\' => do
    let (part, rest) ← readEscape r.ignoreBlanks cs
    return r.add part rest
  | '.' => some (r.add .dot cs)
  | '^' | '$' => some (r.add .lineBound cs)
  | c => some (r.add (.literal ⟨c, false⟩) cs)

/-- Reads on up to the end of the text, in which all groups have to be closed. -/
def Reading.finish? : Nat → Reading → Option Regex
  | 0, _ => none
  | fuel + 1, r =>
    match skip r.ignoreBlanks r.rest with
    | [] => if r.groups.isEmpty then some r.whole else none
    | c :: cs => do (← r.step? c cs).finish? fuel

def depthLimit : Nat := 250

/-- The expression that a text is; nothing if it is malformed or nested too deep. -/
def ofChars? (cs : List Char) : Option Regex := do
  let r ← (Reading.start cs).finish? (cs.length + 1)
  if r.depth ≤ depthLimit then return r else none

end DriverValidation.Regex
