import DriverValidation.Shell.Glob

/-!
The patterns by which lines of a text are looked for: characters, sets of characters, repetitions,
groups, alternatives, and places in a line. They are written in one of two ways, which differ in the
signs that need a backslash.
-/

namespace DriverValidation.Shell

/-- How patterns are written: signs for groups, alternatives and most repetitions stand behind a
backslash in the basic way, and by themselves in the extended one. -/
inductive PatternStyle where
  | basic
  | extended
  deriving Repr, DecidableEq

/-- Why a text is no pattern. -/
inductive PatternError where
  | emptySet
  | openSet
  | openGroup
  | closedGroup
  | openCount
  | badCount
  | badRange
  | badClass
  | badReference
  | trailingBackslash
  | badRepetition
  deriving Repr, DecidableEq

def PatternError.message : PatternError → String
  | emptySet => "Invalid regular expression"
  | openSet => "Unmatched [, [^, [:, [., or [="
  | openGroup => "Unmatched ( or \\("
  | closedGroup => "Unmatched ) or \\)"
  | openCount => "Unmatched \\\x7b"
  | badCount => "Invalid content of \\\x7b\\\x7d"
  | badRange => "Invalid range end"
  | badClass => "Invalid character class name"
  | badReference => "Invalid back reference"
  | trailingBackslash => "Trailing backslash"
  | badRepetition => "Invalid preceding regular expression"

/-- A place in a line. -/
inductive Anchor where
  | lineStart
  | lineEnd
  | wordStart
  | wordEnd
  | wordBound
  | wordInside
  deriving Repr, DecidableEq

inductive PatternPart where
  | char (c : Char)
  | any
  | oneOf (s : GlobSet)
  | anchor (a : Anchor)
  | reference (n : Nat)
  | group (n : Nat) (alternatives : List (List PatternPart))
  | repetition (least : Nat) (most : Option Nat) (part : PatternPart)

namespace Pattern

def classNames : List String :=
  ["alpha", "digit", "alnum", "upper", "lower", "space", "blank", "xdigit", "punct", "cntrl", "print",
    "graph"]

def readSet (negated first : Bool) (s : GlobSet) :
    Nat → List Char → Except PatternError (GlobSet × List Char)
  | 0, _ => .error .openSet
  | _ + 1, [] => .error (if first then .emptySet else .openSet)
  | fuel + 1, ']' :: rest =>
    if first then readSet negated false { s with ranges := (']', ']') :: s.ranges } fuel rest
    else .ok ({ s with negated }, rest)
  | fuel + 1, '[' :: ':' :: rest =>
    let name := String.ofList (rest.takeWhile (· != ':'))
    match rest.dropWhile (· != ':') with
    | ':' :: ']' :: after =>
      if classNames.contains name then
        readSet negated false { s with classes := name :: s.classes } fuel after
      else .error .badClass
    | _ => .error .openSet
  | fuel + 1, a :: '-' :: b :: rest =>
    if b == ']' then
      .ok ({ s with negated, ranges := (a, a) :: ('-', '-') :: s.ranges }, rest)
    else if b < a then .error .badRange
    else readSet negated false { s with ranges := (a, b) :: s.ranges } fuel rest
  | fuel + 1, a :: rest =>
    readSet negated false { s with ranges := (a, a) :: s.ranges } fuel rest

/-- Reads the numbers of a repetition up to the sign that closes it. -/
def readCount (style : PatternStyle) (cs : List Char) :
    Except PatternError ((Nat × Option Nat) × List Char) :=
  let number := fun (cs : List Char) => (String.ofList (cs.takeWhile Char.isDigit)).toNat?
  let behind := cs.dropWhile Char.isDigit
  let (most, rest) :=
    match behind with
    | ',' :: rest => (number rest, rest.dropWhile Char.isDigit)
    | rest => (number cs, rest)
  let least := (number cs).getD 0
  let closed? :=
    match style, rest with
    | .basic, '\\' :: '\x7d' :: rest => some rest
    | .extended, '\x7d' :: rest => some rest
    | _, _ => none
  match closed? with
  | none => .error .openCount
  | some rest =>
    if behind == cs && behind.head? != some ',' then .error .badCount
    else if most.any (· < least) then .error .badCount
    else .ok ((least, most), rest)

/-- The parts of a pattern that was read: the latest alternative with its parts latest first, and the
alternatives before it. -/
structure Built where
  parts : List PatternPart
  alternatives : List (List PatternPart)

def wordSet (negated : Bool) : GlobSet := ⟨negated, [('_', '_')], ["alnum"]⟩

/-- The part that a letter behind a backslash stands for. -/
def escape? : Char → Option PatternPart
  | 'w' => some (.oneOf (wordSet false))
  | 'W' => some (.oneOf (wordSet true))
  | 's' => some (.oneOf ⟨false, [], ["space"]⟩)
  | 'S' => some (.oneOf ⟨true, [], ["space"]⟩)
  | '<' => some (.anchor .wordStart)
  | '>' => some (.anchor .wordEnd)
  | 'b' => some (.anchor .wordBound)
  | 'B' => some (.anchor .wordInside)
  | _ => none

inductive Sign where
  | opening
  | closing
  | alternative
  | star
  | plus
  | question
  | count
  | plain
  deriving Repr, DecidableEq

/-- The meaning of a character by itself, or behind a backslash. -/
def signOf (style : PatternStyle) (escaped : Bool) (c : Char) : Sign :=
  if c == '*' then if escaped then .plain else .star
  else if (style == .basic) != escaped then .plain
  else
    match c with
    | '(' => .opening
    | ')' => .closing
    | '|' => .alternative
    | '+' => .plus
    | '?' => .question
    | '\x7b' => .count
    | _ => .plain

/-- Reads a pattern up to its end or the end of a group, behind what was read; groups are numbered
from `groups` on. -/
def read (style : PatternStyle) (depth : Nat) (b : Built) (groups : Nat) :
    Nat → List Char → Except PatternError (List (List PatternPart) × Nat × List Char)
  | 0, _ => .error .openGroup
  | _ + 1, [] =>
    if depth == 0 then .ok ((b.parts.reverse :: b.alternatives).reverse, groups, [])
    else .error .openGroup
  | fuel + 1, c :: rest =>
    let atStart := b.parts.isEmpty
    let add := fun (part : PatternPart) (rest : List Char) =>
      read style depth { b with parts := part :: b.parts } groups fuel rest
    let repeated := fun (least : Nat) (most : Option Nat) (rest : List Char) =>
      match b.parts with
      | [] => .error .badRepetition
      | part :: parts =>
        read style depth { b with parts := .repetition least most part :: parts } groups fuel rest
    let bySign := fun (sign : Sign) (c : Char) (rest : List Char) =>
      match sign with
      | .opening => do
        let (alternatives, after, rest) ← read style (depth + 1) ⟨[], []⟩ (groups + 1) fuel rest
        read style depth { b with parts := .group groups alternatives :: b.parts } after fuel rest
      | .closing =>
        if depth == 0 then
          if style == .extended then add (.char c) rest else .error .closedGroup
        else .ok ((b.parts.reverse :: b.alternatives).reverse, groups, rest)
      | .alternative =>
        read style depth ⟨[], b.parts.reverse :: b.alternatives⟩ groups fuel rest
      | .star => if atStart then add (.char c) rest else repeated 0 none rest
      | .plus => if atStart then add (.char c) rest else repeated 1 none rest
      | .question => if atStart then add (.char c) rest else repeated 0 (some 1) rest
      | .count =>
        if atStart then add (.char c) rest
        else
          match readCount style rest with
          | .ok ((least, most), rest) => repeated least most rest
          | .error e => if style == .extended && e == .openCount then add (.char c) rest else .error e
      | .plain => add (.char c) rest
    if c == '\\' then
      match rest with
      | [] => .error .trailingBackslash
      | e :: rest =>
        if e.isDigit && e != '0' then
          let n := e.toNat - '0'.toNat
          if n < groups then add (.reference n) rest else .error .badReference
        else
          match escape? e with
          | some part => add part rest
          | none => bySign (signOf style true e) e rest
    else if c == '[' then do
      let (s, rest) ←
        match rest with
        | '^' :: inside => readSet true true ⟨true, [], []⟩ (inside.length + 1) inside
        | inside => readSet false true ⟨false, [], []⟩ (inside.length + 1) inside
      add (.oneOf s) rest
    else if c == '.' then add .any rest
    else if c == '^' && (atStart || style == .extended) then
      read style depth { b with parts := .anchor .lineStart :: b.parts } groups fuel rest
    else if c == '$' && (style == .extended || rest.isEmpty || rest.take 2 == ['\\', ')'] ||
        rest.take 2 == ['\\', '|']) then add (.anchor .lineEnd) rest
    else bySign (signOf style false c) c rest

/-- Reads a whole pattern, and the number of its groups. -/
def ofChars (style : PatternStyle) (cs : List Char) : Except PatternError (PatternPart × Nat) := do
  let (alternatives, groups, _) ← read style 0 ⟨[], []⟩ 1 (2 * cs.length + 2) cs
  return (.group 0 alternatives, groups - 1)

/-- How far a pattern was fitted, and where its groups fit. -/
structure Fit where
  place : Nat
  groups : List (Nat × Nat × Nat)
  deriving Repr, DecidableEq

def isWordChar (c : Char) : Bool := c.isAlphanum || c == '_'

/-- A place is one that an anchor stands for. -/
def Anchor.holds (text : Array Char) (place : Nat) (a : Anchor) : Bool :=
  let before := place != 0 && (text[place - 1]?).any isWordChar
  let behind := (text[place]?).any isWordChar
  match a with
  | .lineStart => place == 0
  | .lineEnd => place == text.size
  | .wordStart => !before && behind
  | .wordEnd => before && !behind
  | .wordBound => before != behind
  | .wordInside => before == behind

def slice (text : Array Char) (first last : Nat) : List Char :=
  (text.toList.drop first).take (last - first)

/-- The ways to go on from a way in which a pattern was fitted, better ones first. -/
def fitPart (text : Array Char) : Nat → PatternPart → Fit → List Fit
  | 0, _, _ => []
  | fuel + 1, part, f =>
    let oneChar := fun (accepts : Char → Bool) =>
      if (text[f.place]?).any accepts then [{ f with place := f.place + 1 }] else []
    match part with
    | .char c => oneChar (· == c)
    | .any => oneChar fun _ => true
    | .oneOf s => oneChar s.accepts
    | .anchor a => if Anchor.holds text f.place a then [f] else []
    | .reference n =>
      match f.groups.lookup n with
      | none => []
      | some (first, last) =>
        let cs := slice text first last
        if slice text f.place (f.place + cs.length) == cs then
          [{ f with place := f.place + cs.length }]
        else []
    | .group n alternatives =>
      alternatives.flatMap fun parts =>
        (parts.foldl (fun fits part => (fits.flatMap (fitPart text fuel part)).eraseDups) [f]).map
          fun g => { g with groups := (n, f.place, g.place) :: g.groups.filter (·.1 != n) }
    | .repetition least most part =>
      if most == some 0 then [f]
      else
        let more :=
          (fitPart text fuel part f).flatMap fun g =>
            if g.place == f.place && least == 0 then []
            else fitPart text fuel (.repetition (least - 1) (most.map (· - 1)) part) g
        if least == 0 then (more ++ [f]).eraseDups else more

/-- A bound for the depth of fitting. -/
def bound (text : Array Char) : Nat := 4 * text.size + 4096

/-- The ways in which a pattern fits from a place on. -/
def fitsAt (p : PatternPart) (text : Array Char) (place : Nat) : List Fit :=
  fitPart text (bound text) p ⟨place, []⟩

/-- The farthest way in which a pattern fits from a place on. -/
def fitAt? (p : PatternPart) (text : Array Char) (place : Nat) : Option Fit :=
  (fitsAt p text place).foldl
    (fun best f => if best.any (f.place ≤ ·.place) then best else some f) none

end Pattern

end DriverValidation.Shell
