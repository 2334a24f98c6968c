import DriverValidation.Yaml.Node.OfTokens
import DriverValidation.Yaml.Token.Lexer

/-!
A document whose aliases are tied to nodes. An anchor takes as its number how many names were in use
before it, so a name that is used again takes a number that the next new name takes too; an alias
has the number that its name has where the alias stands, and stands for the node that took this
number last in the whole document.
-/

namespace DriverValidation.Yaml

/-- A node whose aliases are numbers of anchors. -/
abbrev Linked := Node Nat

/-- The anchors met so far: the number of each name, the anchors that took each number, latest
first, each told apart by its place in the order of all anchors, and the nodes at these places. -/
structure Anchors where
  numbers : List (List Char × Nat)
  takers : List (Nat × Nat)
  nodes : List (Nat × Linked)

namespace Anchors

def none : Anchors := ⟨[], [], []⟩

/-- An anchor is met: its place in the order of all anchors. -/
def meet (a : Anchors) (name : List Char) : Nat × Anchors :=
  let number := a.numbers.length
  let others := a.numbers.filter (·.1 != name)
  (a.takers.length,
    { a with numbers := (name, number) :: others, takers := (number, a.takers.length) :: a.takers })

/-- Meets the anchor of a node, if it has one. -/
def meet? (a : Anchors) (p : Properties) : Option Nat × Anchors :=
  match p.anchor with
  | some name => let (place, a) := a.meet name; (some place, a)
  | .none => (.none, a)

/-- The node of an anchor is known. -/
def settle (a : Anchors) (place : Option Nat) (node : Linked) : Anchors :=
  match place with
  | some place => { a with nodes := (place, node) :: a.nodes }
  | .none => a

def target? (a : Anchors) (number : Nat) : Option Linked :=
  (a.takers.lookup number).bind fun place => a.nodes.lookup place

end Anchors

mutual

/-- Ties the aliases of a node, in the order in which the node is written. -/
def Node.link (a : Anchors) : Node.Written → Except Error (Linked × Anchors)
  | .alias name =>
    match a.numbers.lookup name with
    | some number => .ok (.alias number, a)
    | none => .error (.unknownAnchor (String.ofList name))
  | .scalar p style text =>
    let (place, a) := a.meet? p
    .ok (.scalar p style text, a.settle place (.scalar p style text))
  | .sequence p items => do
    let (place, a) := a.meet? p
    let (items, a) ← Node.linkItems a items
    return (.sequence p items, a.settle place (.sequence p items))
  | .mapping p entries => do
    let (place, a) := a.meet? p
    let (entries, a) ← Node.linkEntries a entries
    return (.mapping p entries, a.settle place (.mapping p entries))

def Node.linkItems (a : Anchors) : List Node.Written → Except Error (List Linked × Anchors)
  | [] => .ok ([], a)
  | item :: items => do
    let (item, a) ← Node.link a item
    let (items, a) ← Node.linkItems a items
    return (item :: items, a)

def Node.linkEntries (a : Anchors) :
    List (Node.Written × Node.Written) → Except Error (List (Linked × Linked) × Anchors)
  | [] => .ok ([], a)
  | (key, value) :: entries => do
    let (key, a) ← Node.link a key
    let (value, a) ← Node.link a value
    let (entries, a) ← Node.linkEntries a entries
    return ((key, value) :: entries, a)

end

/-- The node of a document, absent where the text has none, and the anchors in it. -/
structure Document where
  root : Option Linked
  anchors : Anchors

namespace Document

/-- How many aliases may be followed while the document is read: a hundred for each mark in it. -/
def aliasLimit (d : Document) : Nat :=
  100 * (d.root.map Node.size).getD 1

def ofChars (cs : List Char) : Except Error Document := do
  match ← Node.ofTokens (← Token.ofChars cs) with
  | none => return ⟨none, .none⟩
  | some node =>
    let (root, anchors) ← node.link .none
    return ⟨some root, anchors⟩

end Document

end DriverValidation.Yaml
