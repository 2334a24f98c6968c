/-!
The command line. Each option takes one value and may be given once; the component and the path of the
configuration file may come from the environment instead.
-/

namespace DriverValidation

/-- What a command line asks for. -/
structure Options where
  component : String
  configPath : Option String
  statusFile : Option String
  outputDir : Option String
  logLevel : String
  deriving Repr, DecidableEq

/-- Why a command line asks for nothing that can be run. -/
inductive UsageError where
  | displayHelp
  | missingRequiredArgument
  | unknownArgument
  | invalidValue
  | argumentConflict
  | tooManyValues
  deriving Repr, DecidableEq

def UsageError.name : UsageError → String
  | displayHelp => "DisplayHelp"
  | missingRequiredArgument => "MissingRequiredArgument"
  | unknownArgument => "UnknownArgument"
  | invalidValue => "InvalidValue"
  | argumentConflict => "ArgumentConflict"
  | tooManyValues => "TooManyValues"

namespace Options

inductive Name where
  | component
  | configPath
  | statusFile
  | outputDir
  | logLevel
  deriving Repr, DecidableEq

def longNames : List (String × Name) :=
  [("component", .component), ("config-path", .configPath), ("status-file", .statusFile),
    ("output-dir", .outputDir), ("log-level", .logLevel)]

/-- An option whose value is a path, which is not empty. -/
def Name.isPath : Name → Bool
  | configPath | statusFile | outputDir => true
  | component | logLevel => false

/-- The variables of the environment that stand for an option. -/
def Name.variable? : Name → Option String
  | component => some "COMPONENT"
  | configPath => some "VALIDATOR_CONFIG"
  | _ => none

/-- What has been read of a command line: the values given, the option that was met last with its
value, if that has come, and whether two dashes have ended the options. -/
structure Partial where
  given : List (Name × String)
  pending : Option (Name × Option String)
  ended : Bool
  deriving Repr, DecidableEq

def Partial.empty : Partial := ⟨[], none, false⟩

/-- Takes the value of an option. -/
def Partial.take (p : Partial) (name : Name) (value : String) : Except UsageError Partial :=
  if (p.given.lookup name).isSome then .error .argumentConflict
  else if name.isPath && value == "" then .error .invalidValue
  else .ok { p with given := p.given ++ [(name, value)] }

def Partial.settle (p : Partial) : Except UsageError Partial :=
  match p.pending with
  | none => .ok p
  | some (_, none) => .error .invalidValue
  | some (name, some value) => { p with pending := none }.take name value

/-- Meets an option, with a value attached or to come. -/
def Partial.meet (p : Partial) (name : Name) (attached : Option String) :
    Except UsageError Partial := do
  let p ← p.settle
  match attached with
  | some value => p.take name value
  | none => return { p with pending := some (name, none) }

/-- Asks for help, once the options before are taken. -/
def Partial.help (p : Partial) : Except UsageError Partial := do
  let _ ← p.settle
  .error .displayHelp

/-- Reads an argument with two dashes in front, given the text behind them. -/
def Partial.readLong (p : Partial) (cs : List Char) : Except UsageError Partial :=
  let name := String.ofList (cs.takeWhile (· != '='))
  let attached :=
    match cs.dropWhile (· != '=') with
    | _ :: value => some (String.ofList value)
    | [] => none
  if name == "help" then
    if attached.isSome then .error .tooManyValues else p.help
  else
    match longNames.lookup name with
    | some option => p.meet option attached
    | none => .error .unknownArgument

/-- Reads an argument with one dash in front, given the text behind it. -/
def Partial.readShort (p : Partial) : List Char → Except UsageError Partial
  | 'c' :: [] => p.meet .component none
  | 'c' :: '=' :: value => p.meet .component (some (String.ofList value))
  | 'c' :: value => p.meet .component (some (String.ofList value))
  | 'h' :: _ => p.help
  | _ => .error .unknownArgument

/-- Reads an argument that is no option: the value of the option before it. -/
def Partial.readValue (p : Partial) (value : String) : Except UsageError Partial :=
  match p.pending with
  | some (name, none) => .ok { p with pending := some (name, some value) }
  | _ => .error .unknownArgument

def Partial.read (p : Partial) (argument : String) : Except UsageError Partial :=
  if p.ended then .error .unknownArgument
  else
    match argument.toList with
    | ['-', '-'] => .ok { p with ended := true }
    | '-' :: '-' :: cs => p.readLong cs
    | ['-'] => p.readValue argument
    | '-' :: cs => p.readShort cs
    | _ => p.readValue argument

/-- Takes the value of an option from the environment where it was not given. -/
def Partial.takeVariable (environment : List (String × String)) (p : Partial) (name : Name) :
    Except UsageError Partial :=
  if (p.given.lookup name).isSome then .ok p
  else
    match name.variable?.bind fun key => environment.lookup key with
    | some value => p.take name value
    | none => .ok p

def read (arguments : List String) (environment : List (String × String)) :
    Except UsageError Options := do
  let p ← arguments.foldlM Partial.read .empty
  let p ← p.settle
  let p ← [Name.component, .configPath].foldlM (Partial.takeVariable environment) p
  match p.given.lookup .component with
  | none => .error .missingRequiredArgument
  | some component =>
    return {
      component
      configPath := p.given.lookup .configPath
      statusFile := p.given.lookup .statusFile
      outputDir := p.given.lookup .outputDir
      logLevel := (p.given.lookup .logLevel).getD "info" }

end Options

end DriverValidation
