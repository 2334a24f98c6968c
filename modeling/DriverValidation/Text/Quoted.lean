import DriverValidation.Text.Printable

/-!
Text between double quotes, in which quotes, backslashes and all that does not print by itself are
written as escapes.
-/

namespace DriverValidation.Text.Quoted

def hexDigits (n : Nat) : List Char := Nat.toDigits 16 n

def encodeChar (c : Char) : List Char :=
  match c with
  | '"' => ['\\', '"']
  | '\\' => ['\\', '\\']
  | '\n' => ['\\', 'n']
  | '\r' => ['\\', 'r']
  | '\t' => ['\\', 't']
  | '\x00' => ['\\', '0']
  | c =>
    if isExtender c || !isPrintable c then ['\\', 'u', '\x7b'] ++ hexDigits c.toNat ++ ['\x7d']
    else [c]

def encode (s : String) : String :=
  String.ofList ('"' :: s.toList.flatMap encodeChar ++ ['"'])

end DriverValidation.Text.Quoted
