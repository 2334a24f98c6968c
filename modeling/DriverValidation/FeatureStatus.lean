import DriverValidation.Event
import DriverValidation.Files.Tree
import DriverValidation.Text.Blank
import DriverValidation.ValidationError
import DriverValidation.Yaml.Value.OfDocument

/-!
The feature status that the driver container writes: a mapping in which three flags say which
additional features are enabled. All entries are kept, the flags alone are interpreted.
-/

namespace DriverValidation

/-- The entries of a feature status. -/
structure FeatureStatus where
  entries : List (Yaml.Value × Yaml.Value)

namespace FeatureStatus

def empty : FeatureStatus := ⟨[]⟩

def get? (s : FeatureStatus) (key : String) : Option Yaml.Value :=
  (s.entries.find? fun e => Yaml.Value.same (.text key) e.1).map (·.2)

def isEnabled (s : FeatureStatus) (f : Feature) : Bool :=
  match s.get? f.statusKey with
  | some (.boolean true) => true
  | _ => false

/-- The features whose flag is set, in their order. -/
def enabled (s : FeatureStatus) : List Feature := Feature.all.filter s.isEnabled

/-- Equality without regard to order. -/
def same (a b : FeatureStatus) : Bool := Yaml.Value.same (.mapping a.entries) (.mapping b.entries)

/-- The kind of a value that is no truth value. -/
def wrongKind? : Yaml.Value → Option Yaml.Kind
  | .boolean _ => none
  | v => some v.kind

/-- The first feature whose flag is no truth value, and what it is. -/
def wrongFlag? (s : FeatureStatus) : Option (Feature × Yaml.Kind) :=
  Feature.all.findSome? fun f => ((s.get? f.statusKey).bind wrongKind?).map (f, ·)

/-- The status that a value stands for. -/
def ofValue : Yaml.Value → Except Reason FeatureStatus
  | .null => .ok empty
  | .mapping entries =>
    match wrongFlag? ⟨entries⟩ with
    | some (feature, kind) => .error (.notABoolean feature kind)
    | none => .ok ⟨entries⟩
  | v => .error (.notAMapping v.kind)

/-- The status that a text stands for, given what the text reads as; white space alone is an empty
status. -/
def ofReading (s : String) (reading : Except Yaml.Error Yaml.Value) :
    Except Reason FeatureStatus :=
  if Text.isAllBlank s then .ok empty
  else
    match reading with
    | .error e => .error (.yaml e)
    | .ok v => ofValue v

def ofText (s : String) : Except Reason FeatureStatus := ofReading s (Yaml.Value.ofText s)

/-- The status that the contents of a file stand for. -/
def ofBytes (bytes : List UInt8) : Except Reason FeatureStatus :=
  match Text.Utf8.decode bytes with
  | .ok s => ofText s
  | .error fault => .error (.notUtf8 fault)

/-- Reads the status that the text of a file at a path stands for. -/
def parse (path s : String) : Except ValidationError FeatureStatus :=
  (ofText s).mapError (.statusInvalid path)

def load (t : Files.Tree) (path : String) : Except ValidationError FeatureStatus :=
  match t.read path with
  | .error e => .error (.statusUnavailable path e)
  | .ok bytes => (ofBytes bytes).mapError (.statusInvalid path)

/-- What is logged when a status was loaded. -/
def loadedEvent (path : String) (s : FeatureStatus) : Event :=
  .statusLoaded path s.entries.length s.enabled

def loadEvents (path : String) : Except ValidationError FeatureStatus → List Event
  | .ok s => [s.loadedEvent path]
  | .error _ => []

end FeatureStatus

end DriverValidation
