import DriverValidation.Manifest.Source
import DriverValidation.Yaml.Document
import DriverValidation.Yaml.Scalar.Meaning

/-!
Reading typed fields from YAML. Where a text is asked for, each scalar is one as it is written; where
nothing is written, a list or mapping that is asked for is empty.
-/

namespace DriverValidation.Manifest.Yaml

open DriverValidation.Yaml

def resolve (anchors : Anchors) : Linked → Reading Linked
  | .alias number => fun left =>
    match left, anchors.target? number with
    | 0, _ => .error .tooManyAliases
    | left + 1, some node => .ok (node, left)
    | _ + 1, none => .error .unknownAlias
  | node => pure node

/-- The words for null, and the tag for null before them, are absent; so is an empty plain scalar
without a tag. -/
def isAbsent : Linked → Except Fault Bool
  | .scalar p .plain cs =>
    match p.tag with
    | none => .ok (cs.isEmpty || Meaning.isNull cs)
    | some .null => if Meaning.isNull cs then .ok true else .error (.expected "null")
    | some _ => .ok false
  | _ => .ok false

/-- Scalars that may be read as something else than text: plain ones, and literal ones with the tag
for it. -/
def isPlain (wanted : Tag) (p : Properties) (style : Style) : Bool :=
  style == .plain || (style == .literal && p.tag == some wanted)

def isEmpty : Linked → Bool
  | .scalar _ .plain [] => true
  | _ => false

/-- How the nodes of a document are read. -/
def source (anchors : Anchors) : Source Linked where
  resolve := resolve anchors
  isAbsent := isAbsent
  text
    | .scalar _ _ cs => .ok (String.ofList cs)
    | _ => .error (.expected "a string")
  flag
    | .scalar p style cs =>
      match if isPlain .boolean p style then Meaning.boolean? cs else none with
      | some b => .ok b
      | none => .error (.expected "a boolean")
    | _ => .error (.expected "a boolean")
  integer
    | .scalar p style cs =>
      match if isPlain .integer p style then Meaning.int64? cs else none with
      | some n => .ok n
      | none => .error (.expected "i64")
    | _ => .error (.expected "i64")
  items
    | .sequence _ items => .ok items
    | node => if isEmpty node then .ok [] else .error (.expected "a sequence")
  fields
    | .mapping _ entries => .ok entries
    | node => if isEmpty node then .ok [] else .error (.expected "a mapping")

end DriverValidation.Manifest.Yaml
