import DriverValidation.Number.Decimal
import DriverValidation.Text.Code
import DriverValidation.Toml.Value

/-!
Values that are written as one word: truth values, whole and floating-point numbers, dates and
times. Digits may be grouped by single underscores between them; whole numbers are of 64 bits.
-/

namespace DriverValidation.Toml.Scalar

def isWordCharacter (c : Char) : Bool :=
  c.isAlphanum || c == '_' || c == '-' || c == '+' || c == '.' || c == ':'

/-- The digits without the underscores between them; nothing if an underscore stands elsewhere, or
if there is a character that is no digit, or none at all. -/
def ungroup? (isDigit : Char → Bool) : List Char → Option (List Char)
  | [] => none
  | [c] => if isDigit c then some [c] else none
  | c :: '_' :: rest => if isDigit c then (ungroup? isDigit rest).map (c :: ·) else none
  | c :: rest => if isDigit c then (ungroup? isDigit rest).map (c :: ·) else none

/-- The number that digits of a base stand for. -/
def valueOf (base : Nat) (digits : List Char) : Nat :=
  digits.foldl (fun n c => n * base + (Text.hexDigit? c).getD 0) 0

def isDigitOf (base : Nat) (c : Char) : Bool := (Text.hexDigit? c).any (· < base)

/-- The digits of a whole number in base ten: no zero in front of others. -/
def decimalDigits? (cs : List Char) : Option (List Char) :=
  (ungroup? Char.isDigit cs).bind fun digits =>
    if digits.head? == some '0' && digits.length != 1 then none else some digits

/-- A whole number that fits into 64 bits. -/
def checked (n : Int) : Except Error Value :=
  if -0x8000000000000000 ≤ n && n < 0x8000000000000000 then .ok (.integer n) else .error .numberOutOfRange

/-- The whole number of a base that the digits stand for. -/
def basedInteger? (base : Nat) (cs : List Char) : Option (Except Error Value) :=
  (ungroup? (isDigitOf base) cs).map fun digits => checked (valueOf base digits)

def integer? : List Char → Option (Except Error Value)
  | '0' :: 'x' :: cs => basedInteger? 16 cs
  | '0' :: 'o' :: cs => basedInteger? 8 cs
  | '0' :: 'b' :: cs => basedInteger? 2 cs
  | cs =>
    let (negative, bare) := Number.Decimal.splitSign cs
    (decimalDigits? bare).map fun digits =>
      let n : Int := valueOf 10 digits
      checked (if negative then -n else n)

/-- An exponent, whose digits may be grouped: the same without underscores. -/
def exponent? : List Char → Option (List Char)
  | [] => some []
  | c :: cs =>
    if c == 'e' || c == 'E' then
      let (negative, digits) := Number.Decimal.splitSign cs
      (ungroup? Char.isDigit digits).map fun digits =>
        c :: if negative then '-' :: digits else digits
    else none

/-- The digits behind a point up to an exponent: the same without underscores. -/
def fraction? : List Char → Option (List Char)
  | '.' :: cs =>
    let isExponent := fun c => c == 'e' || c == 'E'
    do
      let digits ← ungroup? Char.isDigit (cs.takeWhile (!isExponent ·))
      let exponent ← exponent? (cs.dropWhile (!isExponent ·))
      return '.' :: digits ++ exponent
  | cs => exponent? cs

/-- The floating-point number that a word stands for. A number that is too large is a failure, one
that is too small for its sign is minus infinity. -/
def float? (cs : List Char) : Option (Except Error Value) :=
  let (negative, bare) := Number.Decimal.splitSign cs
  if bare == ['i', 'n', 'f'] then some (.ok (.float (.infinite negative)))
  else if bare == ['n', 'a', 'n'] then some (.ok (.float .nan))
  else do
    let isWhole := fun c => Char.isDigit c || c == '_'
    let whole ← decimalDigits? (bare.takeWhile isWhole)
    let rest ← fraction? (bare.dropWhile isWhole)
    match Number.Decimal.read? (whole ++ rest) with
    | some (.finite m e) => return .ok (.float (.finite (if negative then -m else m) e))
    | _ => return if negative then .ok (.float (.infinite true)) else .error .numberOutOfRange

/-- A number of exactly `n` digits in front, and the text behind it. -/
def fixed? (n : Nat) (cs : List Char) : Option (Nat × List Char) :=
  let digits := cs.take n
  if digits.length == n && digits.all Char.isDigit then some (valueOf 10 digits, cs.drop n)
  else none

/-- The text behind a character. -/
def behind? (p : Char → Bool) : List Char → Option (List Char)
  | c :: cs => if p c then some cs else none
  | [] => none

def daysOf (year month : Nat) : Nat :=
  if month == 2 then
    if (year % 4 == 0 && year % 100 != 0) || year % 400 == 0 then 29 else 28
  else if [4, 6, 9, 11].contains month then 30
  else 31

/-- The text behind a date, if one stands in front. -/
def date? (cs : List Char) : Option (List Char) := do
  let (year, cs) ← fixed? 4 cs
  let (month, cs) ← fixed? 2 (← behind? (· == '-') cs)
  let (day, cs) ← fixed? 2 (← behind? (· == '-') cs)
  if 1 ≤ month && month ≤ 12 && 1 ≤ day && day ≤ daysOf year month then some cs else none

/-- The text behind a time of day, if one stands in front. -/
def timeOfDay? (cs : List Char) : Option (List Char) := do
  let (hour, cs) ← fixed? 2 cs
  let (minute, cs) ← fixed? 2 (← behind? (· == ':') cs)
  let (second, cs) ← fixed? 2 (← behind? (· == ':') cs)
  if hour ≤ 23 && minute ≤ 59 && second ≤ 60 then
    match cs with
    | '.' :: fraction =>
      if (fraction.takeWhile Char.isDigit).isEmpty then some cs
      else some (fraction.dropWhile Char.isDigit)
    | cs => some cs
  else none

/-- The text behind the distance from universal time, if one stands in front. -/
def offset? : List Char → Option (List Char)
  | [] => some []
  | c :: cs =>
    if c == 'Z' || c == 'z' then some cs
    else if c == '+' || c == '-' then do
      let (hour, cs) ← fixed? 2 cs
      let (minute, cs) ← fixed? 2 (← behind? (· == ':') cs)
      if hour ≤ 23 && minute ≤ 59 then some cs else none
    else none

/-- A word is a date, a time of day, or both, then perhaps with a distance from universal time. -/
def isTime (cs : List Char) : Bool :=
  match timeOfDay? cs with
  | some rest => rest.isEmpty
  | none =>
    match date? cs with
    | none => false
    | some [] => true
    | some rest =>
      ((behind? (fun c => c == 'T' || c == 't' || c == ' ') rest).bind fun rest =>
        (timeOfDay? rest).bind offset?) == some []

def ofWord (cs : List Char) : Except Error Value :=
  if cs == ['t', 'r', 'u', 'e'] then .ok (.boolean true)
  else if cs == ['f', 'a', 'l', 's', 'e'] then .ok (.boolean false)
  else if isTime cs then .ok (.time (String.ofList cs))
  else
    match integer? cs with
    | some result => result
    | none => (float? cs).getD (.error .malformedValue)

/-- The word in front of a text; a date takes a time of day behind one space with it. -/
def splitWord (cs : List Char) : List Char × List Char :=
  let word := cs.takeWhile isWordCharacter
  let rest := cs.dropWhile isWordCharacter
  match rest with
  | ' ' :: h :: h' :: ':' :: more =>
    if date? word == some [] && h.isDigit && h'.isDigit then
      let clock := h :: h' :: ':' :: more
      (word ++ ' ' :: clock.takeWhile isWordCharacter, clock.dropWhile isWordCharacter)
    else (word, rest)
  | _ => (word, rest)

def read (cs : List Char) : Except Error (Value × List Char) := do
  let (word, rest) := splitWord cs
  return (← ofWord word, rest)

end DriverValidation.Toml.Scalar
