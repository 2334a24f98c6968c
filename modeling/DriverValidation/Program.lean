import DriverValidation.Config.Load
import DriverValidation.LogFilter
import DriverValidation.Options
import DriverValidation.Run

/-!
The program: the settings are loaded and changed by the command line, the component is looked up, and
a run for it is made. The exit code tells how that went.
-/

namespace DriverValidation

/-- A failure of the program: its cause, and the words put before it. -/
structure Report where
  context : Option String
  error : ValidationError
  deriving Repr, DecidableEq

/-- The wordings of a failure, from the words put before it to the cause behind it. -/
def Report.chain (r : Report) : List String :=
  r.context.toList ++ r.error.message :: (r.error.source?.map IoError.message).toList

namespace Program

variable {σ : Type}

/-- The settings that a command line asks for: those of its file, or the defaults. -/
def settings (options : Options) (t : Files.Tree) : Except ValidationError Config :=
  match options.configPath with
  | none => .ok .standard
  | some path => Config.load t path

/-- Settings with the values that a command line gives in their place. -/
def override (options : Options) (config : Config) : Config :=
  { config with
    statusFile := options.statusFile.getD config.statusFile
    outputDir := options.outputDir.getD config.outputDir }

abbrev Result := Except Report Unit

/-- Does what a command line asks for; nothing if a probe is waited for in vain. -/
def start (w : World σ) (options : Options) (s : Situation σ) : Option (Result × Situation σ) :=
  match settings options s.host.tree with
  | .error e => some (.error ⟨none, e⟩, s)
  | .ok config =>
    let config := override options config
    let s := s.note [.configurationUsed config]
    match Component.ofName? options.component with
    | none =>
      some (.error ⟨none, .invalidComponent options.component⟩,
        s.note [.componentUnknown options.component])
    | some c =>
      match Run.component w config c s with
      | none => none
      | some (.ok (), s) => some (.ok (), s.note [.validationSucceeded c])
      | some (.error e, s) => some (.error ⟨some s!"{c.name} validation failed", e⟩, s)

/-- With what the program fails if it looks the name of the component up twice: with a report, or
because a name that was in order is not found. -/
inductive Failure where
  | reported (r : Report)
  | notFound (name : String)

/-- The program with the name of the component checked before it is looked up, so that it may not be
found though it is in order. -/
def startChecked (w : World σ) (options : Options) (s : Situation σ) :
    Option (Except Failure Unit × Situation σ) :=
  match settings options s.host.tree with
  | .error e => some (.error (.reported ⟨none, e⟩), s)
  | .ok config =>
    let config := override options config
    let s := s.note [.configurationUsed config]
    if !Component.isValid options.component then
      some (.error (.reported ⟨none, .invalidComponent options.component⟩),
        s.note [.componentUnknown options.component])
    else
      match Component.ofName? options.component with
      | none => some (.error (.notFound options.component), s)
      | some c =>
        match Run.component w config c s with
        | none => none
        | some (.ok (), s) => some (.ok (), s.note [.validationSucceeded c])
        | some (.error e, s) =>
          some (.error (.reported ⟨some s!"{c.name} validation failed", e⟩), s)

/-- How the program ends: the command line asks for nothing that can be run, the filter of the log is
none, or there is the result of what was asked for. -/
inductive Outcome where
  | usage (e : UsageError)
  | badLogFilter (fault : LogFilter.Fault)
  | finished (result : Result)

namespace Outcome

/-- The exit code of the program; asking for help is no failure, and a filter that is cut inside of a
character breaks the program off. -/
def exitCode : Outcome → Nat
  | usage .displayHelp => 0
  | usage _ => 2
  | badLogFilter .malformed => 1
  | badLogFilter .brokenCharacter => 101
  | finished (.ok ()) => 0
  | finished (.error _) => 1

/-- The wordings of a failure, outermost first. -/
def complaints : Outcome → List String
  | usage e => [e.name]
  | badLogFilter .malformed => ["invalid filter directive"]
  | badLogFilter .brokenCharacter => ["filter directive cut inside of a character"]
  | finished (.ok ()) => []
  | finished (.error r) => r.chain

end Outcome

/-- Runs the program: how it ends, and how things stand then. -/
def execute (w : World σ) (arguments : List String) (environment : List (String × String))
    (s : Situation σ) : Option (Outcome × Situation σ) :=
  match Options.read arguments environment with
  | .error e => some (.usage e, s)
  | .ok options =>
    match LogFilter.check options.logLevel with
    | .error fault => some (.badLogFilter fault, s)
    | .ok () =>
      match start w options s with
      | none => none
      | some (result, s) => some (.finished result, s)

end Program

end DriverValidation
