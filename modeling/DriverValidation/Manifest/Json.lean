import DriverValidation.Manifest.Source

/-!
Values in JSON notation, as documents are given and answered in.
-/

namespace DriverValidation.Manifest

/-- A value. Of the numbers only the whole ones have a meaning here. -/
inductive Json where
  | null
  | boolean (b : Bool)
  | integer (n : Int)
  | fraction
  | text (s : String)
  | array (items : List Json)
  | object (fields : List (String × Json))
  deriving Inhabited

namespace Json

/-- A whole number of 64 bits with sign. -/
def isInt64 (n : Int) : Bool := -0x8000000000000000 ≤ n && n < 0x8000000000000000

/-- How values in JSON notation are read. There are no aliases, and each kind of value is written in
its own way. -/
def source : Source Json where
  resolve v := pure v
  isAbsent
    | null => .ok true
    | _ => .ok false
  text
    | .text s => .ok s
    | _ => .error (.expected "a string")
  flag
    | boolean b => .ok b
    | _ => .error (.expected "a boolean")
  integer
    | .integer n => if isInt64 n then .ok n else .error (.expected "i64")
    | _ => .error (.expected "i64")
  items
    | array items => .ok items
    | _ => .error (.expected "a sequence")
  fields
    | object fields => .ok (fields.map fun (key, value) => (.text key, value))
    | _ => .error (.expected "a mapping")

end Json

end DriverValidation.Manifest
