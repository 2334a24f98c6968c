import DriverValidation.Regex.OfChars

/-!
Which regular expressions can be used for a search over bytes that knows no tables of characters:
kinds and properties of characters, pairs of letters and the ends of words exist for ASCII alone, where
the flag for other characters is switched off, and without that flag nothing may fit a part of a
character.
-/

namespace DriverValidation.Regex

/-- The flags that decide what can be used. -/
structure Mode where
  ignoreCase : Bool
  unicode : Bool
  deriving Repr, DecidableEq

def Mode.initial : Mode := ⟨false, true⟩

def Mode.change (m : Mode) (change : FlagChange) : Mode :=
  ⟨change.apply .ignoreCase m.ignoreCase, change.apply .unicode m.unicode⟩

def Literal.isAscii (l : Literal) : Bool := l.char.toNat < 128

def Literal.isUsable (m : Mode) (l : Literal) : Bool :=
  if m.unicode then !m.ignoreCase else l.isAscii || !l.isByte

mutual

def CharSet.isUsable (m : Mode) : CharSet → Bool
  | .nothing => true
  | .literal l => if m.unicode then !m.ignoreCase else l.isAscii
  | .range first last =>
    if m.unicode then !m.ignoreCase else first.isAscii && last.isAscii
  | .named negated => if m.unicode then !m.ignoreCase else !negated
  | .kind negated => !m.unicode && !negated
  | .property => false
  | .bracketed negated inside => (m.unicode || !negated) && inside.isUsable m
  | .union items => CharSet.areUsable m items
  | .operation left right => left.isUsable m && right.isUsable m

def CharSet.areUsable (m : Mode) : List CharSet → Bool
  | [] => true
  | s :: rest => s.isUsable m && CharSet.areUsable m rest

end

mutual

/-- The flags behind an expression; nothing if it cannot be used. -/
def modeAfter? (m : Mode) : Regex → Option Mode
  | .empty | .lineBound => some m
  | .flags change => some (m.change change)
  | .literal l => if l.isUsable m then some m else none
  | .dot => if m.unicode then some m else none
  | .wordBound => if m.unicode then none else some m
  | .set s => if s.isUsable m then some m else none
  | .repetition r => r.modeAfter? m
  | .group change r => (r.modeAfter? (m.change change)).map fun _ => m
  | .alternation rs => modeAfterAll? m rs
  | .concatenation rs => modeAfterAll? m rs

/-- The flags behind several expressions; nothing if one of them cannot be used. -/
def modeAfterAll? (m : Mode) : List Regex → Option Mode
  | [] => some m
  | r :: rest => (r.modeAfter? m).bind fun m => modeAfterAll? m rest

end

def isUsable (r : Regex) : Bool := (r.modeAfter? .initial).isSome

def isRegex (cs : List Char) : Bool := (ofChars? cs).any isUsable

end DriverValidation.Regex
