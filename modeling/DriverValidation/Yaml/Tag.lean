import DriverValidation.Text.Utf8
import DriverValidation.Yaml.Node

/-!
What a tag means: the handles that are in force, the stem each stands for, and the tags that this
library knows.
-/

namespace DriverValidation.Yaml

/-- The stems of the handles in force; the first entry of a handle counts. -/
abbrev Handles := List (List Char × List UInt8)

private def asBytes (s : String) : List UInt8 := Text.Utf8.encode s

/-- The handles that are in force without any directive. -/
def Handles.standard : Handles :=
  [(['!'], asBytes "!"), (['!', '!'], asBytes "tag:yaml.org,2002:")]

/-- A local name without an exclamation mark before it, unless it is nothing else. -/
def withoutBang (cs : List Char) : List Char :=
  match cs with
  | '!' :: c :: rest => c :: rest
  | _ => cs

namespace Tag

/-- The tag that some bytes are. A local tag starts with an exclamation mark; up to two of them are
no part of its name, unless the name would be empty without. -/
def ofBytes (bytes : List UInt8) : Tag :=
  if bytes == asBytes "tag:yaml.org,2002:bool" then .boolean
  else if bytes == asBytes "tag:yaml.org,2002:int" then .integer
  else if bytes == asBytes "tag:yaml.org,2002:float" then .float
  else if bytes == asBytes "tag:yaml.org,2002:null" then .null
  else if bytes.head? != some 0x21 then .foreign
  else
    match Text.Utf8.decode bytes with
    | .ok name => .named (String.ofList (withoutBang (withoutBang name.toList)))
    | .error _ => .nameless

/-- The bytes before the first zero byte, which ends a tag. -/
private def beforeZero (bytes : List UInt8) : List UInt8 := bytes.takeWhile (· != 0)

/-- The tag of a handle and a suffix; a tag that is written out in full has no handle. -/
def resolve (handles : Handles) (handle : List Char) (suffix : List UInt8) : Except Error Tag :=
  if handle.isEmpty then .ok (ofBytes (beforeZero suffix))
  else
    match handles.lookup handle with
    | some stem => .ok (ofBytes (beforeZero stem ++ beforeZero suffix))
    | none => .error (.malformedStructure .undefinedHandle)

end Tag

end DriverValidation.Yaml
