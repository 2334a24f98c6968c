/-!
Regular expressions as they are written: characters, sets of them in brackets, repetitions, groups and
alternatives, and flags that change what all that follows in their group stands for.
-/

namespace DriverValidation

namespace Regex

/-- A character of an expression, and whether it is written as a byte of two digits. -/
structure Literal where
  char : Char
  isByte : Bool
  deriving Repr, DecidableEq

inductive Flag where
  | ignoreCase
  | multiLine
  | dotMatchesBreaks
  | swapGreed
  | unicode
  | carriageReturns
  | ignoreBlanks
  deriving Repr, DecidableEq

/-- The flags that are switched on and off at a place. -/
structure FlagChange where
  on : List Flag
  off : List Flag
  deriving Repr, DecidableEq

namespace FlagChange

def none : FlagChange := ⟨[], []⟩

def isNone (change : FlagChange) : Bool := change.on.isEmpty && change.off.isEmpty

/-- The value of a flag behind the change, given the one before it. -/
def apply (change : FlagChange) (flag : Flag) (before : Bool) : Bool :=
  change.on.contains flag || (before && !change.off.contains flag)

end FlagChange

/-- A set of characters: single ones and ranges, named sets and kinds of characters, properties, sets
in brackets, several of these together, and what an operator makes of two. -/
inductive CharSet where
  | nothing
  | literal (l : Literal)
  | range (first last : Literal)
  | named (negated : Bool)
  | kind (negated : Bool)
  | property
  | bracketed (negated : Bool) (inside : CharSet)
  | union (items : List CharSet)
  | operation (left right : CharSet)
  deriving Repr

end Regex

inductive Regex where
  | empty
  | flags (change : Regex.FlagChange)
  | literal (l : Regex.Literal)
  | dot
  | lineBound
  | wordBound
  | set (s : Regex.CharSet)
  | repetition (r : Regex)
  | group (change : Regex.FlagChange) (r : Regex)
  | alternation (rs : List Regex)
  | concatenation (rs : List Regex)
  deriving Repr

namespace Regex

mutual

def CharSet.depth : CharSet → Nat
  | .bracketed _ inside => inside.depth + 1
  | .union items => CharSet.depthAll items + 1
  | .operation left right => max left.depth right.depth + 1
  | _ => 0

def CharSet.depthAll : List CharSet → Nat
  | [] => 0
  | s :: rest => max s.depth (CharSet.depthAll rest)

end

mutual

def depth : Regex → Nat
  | .set s => s.depth
  | .repetition r => r.depth + 1
  | .group _ r => r.depth + 1
  | .alternation rs => depthAll rs + 1
  | .concatenation rs => depthAll rs + 1
  | _ => 0

def depthAll : List Regex → Nat
  | [] => 0
  | r :: rest => max r.depth (depthAll rest)

end

end Regex

end DriverValidation
