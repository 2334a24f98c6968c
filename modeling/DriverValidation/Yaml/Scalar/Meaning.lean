import DriverValidation.Number.Decimal
import DriverValidation.Text.Code

/-!
What the text of a scalar means: null, a truth value, a whole number, a floating-point number. Whole
numbers may be written in base two, eight and sixteen. Several digits of which the first is a zero
are no number.
-/

namespace DriverValidation.Yaml.Meaning

open Number (Binary64)

def isNull (cs : List Char) : Bool :=
  cs == ['~'] || cs == ['n', 'u', 'l', 'l'] || cs == ['N', 'u', 'l', 'l'] ||
    cs == ['N', 'U', 'L', 'L']

def boolean? (cs : List Char) : Option Bool :=
  if cs == ['t', 'r', 'u', 'e'] || cs == ['T', 'r', 'u', 'e'] || cs == ['T', 'R', 'U', 'E'] then
    some true
  else if cs == ['f', 'a', 'l', 's', 'e'] || cs == ['F', 'a', 'l', 's', 'e'] ||
      cs == ['F', 'A', 'L', 'S', 'E'] then
    some false
  else none

/-- The number that digits of a base stand for; nothing if there is none, or some other
character. -/
def digits? (base : Nat) (cs : List Char) : Option Nat :=
  if cs.isEmpty then none
  else
    cs.foldl (fun n c => do
      let n ← n
      let d ← Text.hexDigit? c
      if d < base then some (n * base + d) else none) (some 0)

/-- A sign stands in front. -/
def isSigned (cs : List Char) : Bool := cs.head? == some '+' || cs.head? == some '-'

def withoutPlus : List Char → List Char
  | '+' :: cs => cs
  | cs => cs

/-- Several digits of which the first is a zero, behind at most one sign. -/
def hasLeadingZero (cs : List Char) : Bool :=
  match if isSigned cs then cs.tail else cs with
  | '0' :: c :: rest => (c :: rest).all Char.isDigit
  | _ => false

/-- The base of a whole number and its digits; none if the text has the form of no base. -/
def based? : List Char → Option (Nat × List Char)
  | '0' :: 'x' :: cs => some (16, cs)
  | '0' :: 'o' :: cs => some (8, cs)
  | '0' :: 'b' :: cs => some (2, cs)
  | _ => none

/-- The whole number that a text without a minus sign stands for. -/
def natural? (cs : List Char) : Option Nat :=
  let bare := withoutPlus cs
  match based? bare with
  | some (base, digits) => digits? base digits
  | none => if hasLeadingZero cs then none else digits? 10 bare

/-- The whole number that a text with a minus sign stands for, without the sign. -/
def negated? : List Char → Option Nat
  | '-' :: cs =>
    match based? cs with
    | some (base, digits) => digits? base digits
    | none => if hasLeadingZero cs then none else digits? 10 cs
  | _ => none

/-- What the text of a whole number stands for: a number of the range that values have, or one
that is beyond it but has at most 128 bits. -/
inductive Whole where
  | value (n : Int)
  | tooLarge
  deriving Repr, DecidableEq

/-- The whole number that a text stands for; longer ones than 128 bits are none. -/
def whole? (cs : List Char) : Option Whole :=
  match natural? cs with
  | some n =>
    if n < 0x10000000000000000 then some (.value n)
    else if n < 0x100000000000000000000000000000000 then some .tooLarge
    else none
  | none =>
    match negated? cs with
    | some n =>
      if n ≤ 0x8000000000000000 then some (.value (-n))
      else if n ≤ 0x80000000000000000000000000000000 then some .tooLarge
      else none
    | none => none

/-- The whole number of 64 bits with sign that a text stands for. -/
def int64? (cs : List Char) : Option Int :=
  match natural? cs with
  | some n => if n < 0x8000000000000000 then some n else none
  | none =>
    match negated? cs with
    | some n => if n ≤ 0x8000000000000000 then some (-n) else none
    | none => none

def isInfinity (cs : List Char) : Bool :=
  cs == ['.', 'i', 'n', 'f'] || cs == ['.', 'I', 'n', 'f'] || cs == ['.', 'I', 'N', 'F']

def isNan (cs : List Char) : Bool :=
  cs == ['.', 'n', 'a', 'n'] || cs == ['.', 'N', 'a', 'N'] || cs == ['.', 'N', 'A', 'N']

def float? (cs : List Char) : Option Binary64 :=
  if isNan cs then some .nan
  else
    match cs with
    | '-' :: rest =>
      if isInfinity rest then some (.infinite true) else Number.Decimal.read? cs
    | '+' :: rest =>
      if isSigned rest then none
      else if isInfinity rest then some (.infinite false)
      else Number.Decimal.read? rest
    | _ => if isInfinity cs then some (.infinite false) else Number.Decimal.read? cs

end DriverValidation.Yaml.Meaning
