import DriverValidation.Files.Tree
import DriverValidation.Manifest.Yaml
import DriverValidation.Pod.Decode
import DriverValidation.ValidationError

/-!
Loading a pod from a template file.
-/

namespace DriverValidation.Pod

open Yaml (Document Node)

/-- The pod that a document describes; a text without a document is an empty pod. -/
def ofDocument (d : Document) : Except Manifest.Fault Pod :=
  (·.1) <$> (Pod.read (Manifest.Yaml.source d.anchors) (d.root.getD (Node.empty .none))).run
    d.aliasLimit

def ofText (s : String) : Except Reason Pod :=
  match Document.ofChars s.toList with
  | .error e => .error (.yaml e)
  | .ok d => (ofDocument d).mapError .manifest

/-- The pod that the file at a path describes. -/
def loadTemplate (t : Files.Tree) (path : String) : Except ValidationError Pod :=
  match t.readText path with
  | .error e => .error (.podTemplate path (.io e))
  | .ok s => (ofText s).mapError (.podTemplate path)

end DriverValidation.Pod
