import DriverValidation.Number.Binary64

/-!
The values that a document stands for, with the equality under which a mapping has each key once:
mappings are compared without regard to order, whole and floating-point numbers always differ.
-/

namespace DriverValidation.Yaml

inductive Value where
  | null
  | boolean (b : Bool)
  | integer (n : Int)
  | float (x : Number.Binary64)
  | text (s : String)
  | sequence (items : List Value)
  | mapping (entries : List (Value × Value))
  | tagged (tag : String) (value : Value)

/-- The kinds of values, by which messages tell them apart. -/
inductive Kind where
  | null
  | boolean
  | number
  | text
  | sequence
  | mapping
  | tagged
  deriving Repr, DecidableEq

def Kind.name : Kind → String
  | null => "null"
  | boolean => "boolean"
  | number => "number"
  | text => "string"
  | sequence => "sequence"
  | mapping => "mapping"
  | tagged => "tagged value"

namespace Value

def kind : Value → Kind
  | null => .null
  | boolean _ => .boolean
  | integer _ | float _ => .number
  | text _ => .text
  | sequence _ => .sequence
  | mapping _ => .mapping
  | tagged .. => .tagged

mutual

def same : Value → Value → Bool
  | null, null => true
  | boolean a, boolean b => a == b
  | integer a, integer b => a == b
  | float a, float b => a == b
  | text a, text b => a == b
  | sequence a, sequence b => sameItems a b
  | mapping a, mapping b => a.length == b.length && sameEntries a b
  | tagged s a, tagged t b => s == t && same a b
  | _, _ => false

def sameItems : List Value → List Value → Bool
  | [], [] => true
  | a :: as, b :: bs => same a b && sameItems as bs
  | _, _ => false

/-- Each of some entries is among others. -/
def sameEntries : List (Value × Value) → List (Value × Value) → Bool
  | [], _ => true
  | (k, v) :: as, bs => bs.any (fun e => same k e.1 && same v e.2) && sameEntries as bs

end

instance : BEq Value := ⟨same⟩

def hasKey (entries : List (Value × Value)) (key : Value) : Bool :=
  entries.any fun e => same key e.1

end Value

end DriverValidation.Yaml
