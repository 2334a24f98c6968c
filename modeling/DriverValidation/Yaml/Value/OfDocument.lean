import DriverValidation.Yaml.Document
import DriverValidation.Yaml.Scalar.Meaning
import DriverValidation.Yaml.Value

/-!
The value of a document. Plain scalars are read by their words; a tag of a core type asks for a
value of that type, a local tag is kept beside the value. Collections are at most 128 deep, aliases
are followed wherever they stand, up to a limit that grows with the document.
-/

namespace DriverValidation.Yaml.Value

def depthLimit : Nat := 128

/-- The number of aliases that may still be followed, beside a result. -/
abbrev Reading (α : Type) := StateT Nat (Except Error) α

def failure {α : Type} (e : Error) : Reading α := fun _ => .error e

def ofPlain (cs : List Char) : Except Error Value :=
  if cs.isEmpty || Meaning.isNull cs then .ok .null
  else
    match Meaning.boolean? cs with
    | some b => .ok (.boolean b)
    | none =>
      match Meaning.whole? cs with
      | some (.value n) => .ok (.integer n)
      | some .tooLarge => .error (.wrongKind "any YAML value")
      | none =>
        if Meaning.hasLeadingZero cs then .ok (.text (String.ofList cs))
        else
          match Meaning.float? cs with
          | some x => .ok (.float x)
          | none => .ok (.text (String.ofList cs))

/-- The value of a scalar whose tag is none or is dealt with already. -/
def ofUntagged (style : Style) (cs : List Char) : Except Error Value :=
  if style == .plain then ofPlain cs else .ok (.text (String.ofList cs))

def ofScalar (tag : Option Tag) (style : Style) (cs : List Char) : Except Error Value :=
  match tag with
  | none => ofUntagged style cs
  | some .nameless => ofUntagged style cs
  | some .foreign => .ok (.text (String.ofList cs))
  | some (.named name) => return .tagged name (← ofUntagged style cs)
  | some .boolean =>
    match Meaning.boolean? cs with
    | some b => .ok (.boolean b)
    | none => .error (.wrongKind "a boolean")
  | some .integer =>
    match Meaning.whole? cs with
    | some (.value n) => .ok (.integer n)
    | _ => .error (.wrongKind "an integer")
  | some .float =>
    match Meaning.float? cs with
    | some x => .ok (.float x)
    | none => .error (.wrongKind "a float")
  | some .null => if Meaning.isNull cs then .ok .null else .error (.wrongKind "null")

/-- The value of a collection with the tag it has. -/
def withTag (tag : Option Tag) (v : Value) : Value :=
  match tag with
  | some (.named name) => .tagged name v
  | _ => v

def follow (anchors : Anchors) (number : Nat) : Reading Linked := fun left =>
  match left, anchors.target? number with
  | 0, _ => .error .tooManyRepetitions
  | left + 1, some node => .ok (node, left)
  | _ + 1, none => .error (.unknownAnchor (toString number))

/-- The entries of a mapping, of which no two have the same key. -/
def readEntries (read : Linked → Reading Value) (done : List (Value × Value)) :
    List (Linked × Linked) → Reading (List (Value × Value))
  | [] => pure done.reverse
  | (key, value) :: entries => do
    let key ← read key
    if hasKey done key then failure .repeatedKey
    else
      let value ← read value
      readEntries read ((key, value) :: done) entries

/-- The value of a node that is no alias, in which `read` is used for the members. -/
def ofResolved (read : Option (Linked → Reading Value)) : Linked → Reading Value
  | .alias _ => failure .tooDeep
  | .scalar p style cs => fun left => do return (← ofScalar p.tag style cs, left)
  | .sequence p items =>
    match read with
    | none => failure .tooDeep
    | some read => do return withTag p.tag (.sequence (← items.mapM read))
  | .mapping p entries =>
    match read with
    | none => failure .tooDeep
    | some read => do return withTag p.tag (.mapping (← readEntries read [] entries))

def ofNode (anchors : Anchors) : Nat → Linked → Reading Value
  | depth, node => do
    let node ←
      match node with
      | .alias number => follow anchors number
      | node => pure node
    match depth with
    | 0 => ofResolved none node
    | depth + 1 => ofResolved (some (ofNode anchors depth)) node

/-- The value of a document; a text without a document is null. -/
def ofDocument (d : Document) : Except Error Value :=
  match d.root with
  | none => .ok .null
  | some root => (·.1) <$> (ofNode d.anchors depthLimit root).run d.aliasLimit

def ofText (s : String) : Except Error Value := do
  ofDocument (← Document.ofChars s.toList)

end DriverValidation.Yaml.Value
