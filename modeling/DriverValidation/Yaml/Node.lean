import DriverValidation.Yaml.Error
import DriverValidation.Yaml.Token

/-!
The nodes of a document: scalars, sequences and mappings, each with an anchor and a tag where it
has them, and aliases, which stand for the node of an anchor.
-/

namespace DriverValidation.Yaml

/-- What a tag asks for. The first four are those of the core types; a local tag has a name; the
others have no meaning here, except that a local one whose name is not text is told apart. -/
inductive Tag where
  | boolean
  | integer
  | float
  | null
  | named (name : String)
  | nameless
  | foreign
  deriving Repr, DecidableEq

structure Properties where
  anchor : Option (List Char)
  tag : Option Tag
  deriving Repr, DecidableEq

def Properties.none : Properties := ⟨.none, .none⟩

/-- A node whose aliases are of type `ρ`: names as they are written, or numbers once each name is
known to stand for a node. -/
inductive Node (ρ : Type) where
  | scalar (properties : Properties) (style : Style) (text : List Char)
  | sequence (properties : Properties) (items : List (Node ρ))
  | mapping (properties : Properties) (entries : List (Node ρ × Node ρ))
  | alias (target : ρ)

namespace Node

variable {ρ : Type}

/-- The node that stands where nothing is written. -/
def empty (p : Properties) : Node ρ := .scalar p .plain []

mutual

/-- The number of marks in a node: one for a scalar or an alias, and two for a collection besides
those of its members. -/
def size : Node ρ → Nat
  | .scalar .. => 1
  | .alias _ => 1
  | .sequence _ items => 2 + sizeOfItems items
  | .mapping _ entries => 2 + sizeOfEntries entries

def sizeOfItems : List (Node ρ) → Nat
  | [] => 0
  | item :: items => item.size + sizeOfItems items

def sizeOfEntries : List (Node ρ × Node ρ) → Nat
  | [] => 0
  | (key, value) :: entries => key.size + value.size + sizeOfEntries entries

end

end Node

end DriverValidation.Yaml
