/-!
Floating-point numbers of 64 bits as the values they stand for, and the rounding of a quotient to
the nearest of them. Two such values are equal exactly when the numbers are, except that the two
zeros are one value and that not-a-number is equal to itself.
-/

namespace DriverValidation.Number

/-- The value of a floating-point number: `significand · 2 ^ exponent` where it is finite. -/
inductive Binary64 where
  | nan
  | infinite (negative : Bool)
  | finite (significand : Int) (exponent : Int)
  deriving Repr, DecidableEq

namespace Binary64

def zero : Binary64 := .finite 0 0

/-- The quotient rounded to the nearest whole number, a tie to the even one. -/
def roundDiv (num den : Nat) : Nat :=
  let q := num / den
  let r := num % den
  if den < 2 * r || (2 * r == den && q % 2 == 1) then q + 1 else q

/-- The quotient `num / den` divided by `2 ^ e`, as a quotient of whole numbers. -/
def scaled (num den : Nat) (e : Int) : Nat × Nat :=
  if e < 0 then (num * Nat.pow 2 (-e).toNat, den) else (num, den * Nat.pow 2 e.toNat)

/-- The exponent at which the quotient has a significand of 53 bits, or the least exponent there is
where it would need a smaller one. -/
def exponentOf (num den : Nat) : Int :=
  let guess := max ((Nat.log2 num : Int) - Nat.log2 den - 52) (-1074)
  let (n, d) := scaled num den guess
  if n / d < 0x10000000000000 then max (guess - 1) (-1074) else guess

/-- The value nearest to a quotient, or nothing where that is beyond the largest one. -/
def ofQuotient? (negative : Bool) (num den : Nat) : Option Binary64 :=
  if num == 0 then some zero
  else
    let e := exponentOf num den
    let (n, d) := scaled num den e
    let m := roundDiv n d
    let (m, e) := if m == 0x20000000000000 then (0x10000000000000, e + 1) else (m, e)
    if 971 < e then none
    else if m == 0 then some zero
    else some (.finite (if negative then -(m : Int) else m) e)

/-- The value nearest to `digits · 10 ^ exponent`, or nothing where that is beyond the largest one.
Numbers that are certainly too large or too small are told by their number of digits. -/
def ofDecimal? (negative : Bool) (digits : Nat) (exponent : Int) : Option Binary64 :=
  if digits == 0 then some zero
  else
    let size := exponent + ((Nat.toDigits 10 digits).length : Int)
    if 400 < size then none
    else if size < -400 then some zero
    else if exponent < 0 then ofQuotient? negative digits (Nat.pow 10 (-exponent).toNat)
    else ofQuotient? negative (digits * Nat.pow 10 exponent.toNat) 1

end Binary64

end DriverValidation.Number
