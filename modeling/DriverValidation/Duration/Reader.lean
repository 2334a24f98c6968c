import DriverValidation.Duration
import DriverValidation.Text.Blank

/-!
Reading a span of time. White space may stand between numbers and units and also inside of a
number; a number may have a fraction if that is a whole number of nanoseconds, or of seconds for
hours and larger units. Each product and sum has to fit into 64 bits.
-/

namespace DriverValidation.Duration

/-- Why a text is no span of time. -/
inductive Fault where
  | empty
  | invalidCharacter (c : Char)
  | numberExpected
  | unknownUnit (name : String)
  | overflow
  deriving Repr, DecidableEq

/-- A fraction of a unit. -/
structure Fraction where
  numerator : Nat
  denominator : Nat
  deriving Repr, DecidableEq

def word (n : Nat) : Except Fault Nat := if n < 0x10000000000000000 then .ok n else .error .overflow

def add (d : Duration) (seconds nanos : Nat) : Except Fault Duration := do
  let nanos ← word (d.nanos + nanos)
  match ofParts? (d.seconds + seconds + nanos / 1000000000) (nanos % 1000000000) with
  | some d => return d
  | none => .error .overflow

/-- The part `f` of a number; it has to be a whole number. -/
def Fraction.of (f : Fraction) (n : Nat) : Except Fault Nat := do
  let product ← word (f.numerator * n)
  if product % f.denominator == 0 then return product / f.denominator else .error .overflow

def addFraction (d : Duration) (f : Fraction) (unit : Unit) : Except Fault Duration :=
  match unit with
  | .nanosecond => .error .overflow
  | .microsecond => do d.add 0 (← f.of 1000)
  | .millisecond => do d.add 0 (← f.of 1000000)
  | .second => do d.add 0 (← f.of 1000000000)
  | .minute => do d.add 0 (← f.of 60000000000)
  | unit => do d.add (← f.of unit.seconds) 0

def addUnits (d : Duration) (n : Nat) (f : Option Fraction) (name : List Char) :
    Except Fault Duration :=
  match Unit.ofName? (String.ofList name) with
  | none => .error (.unknownUnit (String.ofList name))
  | some unit => do
    let d ← d.add (← word (n * unit.seconds)) (← word (n * unit.nanos))
    match f with
    | some f => d.addFraction f unit
    | none => return d

/-- What has been read of an item: nothing, its number, the fraction of it, or also its unit, last
letter first. -/
inductive Item where
  | start (isFirst : Bool)
  | number (n : Nat)
  | fraction (n : Nat) (f : Fraction)
  | unit (n : Nat) (f : Option Fraction) (name : List Char)
  deriving Repr, DecidableEq

/-- The letters of units. -/
def isLetter (c : Char) : Bool := c.isAlpha || c == 'µ'

def digitValue (c : Char) : Nat := c.toNat - '0'.toNat

/-- Reads on, `d` being the sum of the items before. -/
def readFrom (d : Duration) : Item → List Char → Except Fault Duration
  | .start isFirst, [] => if isFirst then .error .empty else .ok d
  | .number _, [] => .error (.unknownUnit "")
  | .fraction .., [] => .error (.unknownUnit "")
  | .unit n f name, [] => d.addUnits n f name.reverse
  | .start isFirst, c :: rest =>
    if c.isDigit then readFrom d (.number (digitValue c)) rest
    else if Text.isBlank c then readFrom d (.start isFirst) rest
    else .error .numberExpected
  | .number n, c :: rest =>
    if c.isDigit then do
      let n ← word (n * 10 + digitValue c)
      readFrom d (.number n) rest
    else if Text.isBlank c then readFrom d (.number n) rest
    else if isLetter c then readFrom d (.unit n none [c]) rest
    else if c == '.' then readFrom d (.fraction n ⟨0, 1⟩) rest
    else .error (.invalidCharacter c)
  | .fraction n f, c :: rest =>
    if c.isDigit then do
      let denominator ← word (f.denominator * 10)
      let numerator ← word (f.numerator * 10 + digitValue c)
      readFrom d (.fraction n ⟨numerator, denominator⟩) rest
    else if Text.isBlank c then readFrom d (.fraction n f) rest
    else if isLetter c && f.denominator != 1 then readFrom d (.unit n (some f) [c]) rest
    else .error (.invalidCharacter c)
  | .unit n f name, c :: rest =>
    if c.isDigit then do
      let d ← d.addUnits n f name.reverse
      readFrom d (.number (digitValue c)) rest
    else if Text.isBlank c then do
      let d ← d.addUnits n f name.reverse
      readFrom d (.start false) rest
    else if isLetter c then readFrom d (.unit n f (c :: name)) rest
    else .error (.invalidCharacter c)

/-- The span of time that a text stands for; a lone zero needs no unit. -/
def ofText (s : String) : Except Fault Duration :=
  if s == "0" then .ok zero else readFrom zero (.start true) s.toList

end DriverValidation.Duration
