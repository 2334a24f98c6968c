import DriverValidation.Number.Binary64

/-!
Decimal notation of floating-point numbers: a sign, digits with a point before, among or behind
them, and an exponent.
-/

namespace DriverValidation.Number.Decimal

def digitsValue (cs : List Char) : Nat :=
  cs.foldl (fun n c => n * 10 + (c.toNat - '0'.toNat)) 0

/-- The text without a sign in front, and whether the sign is a minus. -/
def splitSign : List Char → Bool × List Char
  | '-' :: cs => (true, cs)
  | '+' :: cs => (false, cs)
  | cs => (false, cs)

/-- The exponent that stands behind the digits; no text is exponent zero. -/
def exponent? : List Char → Option Int
  | [] => some 0
  | c :: cs =>
    if c == 'e' || c == 'E' then
      let (negative, digits) := splitSign cs
      if digits.isEmpty || !digits.all Char.isDigit then none
      else
        let n : Int := digitsValue digits
        some (if negative then -n else n)
    else none

/-- The sign, the digits and the exponent of a decimal notation; nothing if a text is none. -/
def parts? (cs : List Char) : Option (Bool × Nat × Int) :=
  let (negative, cs) := splitSign cs
  let whole := cs.takeWhile Char.isDigit
  let rest := cs.dropWhile Char.isDigit
  let (fraction, rest) :=
    match rest with
    | '.' :: rest => (rest.takeWhile Char.isDigit, rest.dropWhile Char.isDigit)
    | rest => ([], rest)
  if whole.isEmpty && fraction.isEmpty then none
  else
    (exponent? rest).map fun e =>
      (negative, digitsValue (whole ++ fraction), e - fraction.length)

def isDecimal (cs : List Char) : Bool := (parts? cs).isSome

/-- The number that a decimal notation stands for; nothing if it is no such notation, or if the
number is beyond the largest floating-point number. -/
def read? (cs : List Char) : Option Binary64 :=
  (parts? cs).bind fun (negative, digits, exponent) =>
    Binary64.ofDecimal? negative digits exponent

end DriverValidation.Number.Decimal
