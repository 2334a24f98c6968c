import DriverValidation.Shell.Fields
import DriverValidation.Shell.Glob.Paths
import DriverValidation.Shell.Machine

/-!
What the pieces of words stand for, as far as no command has to be run for it: the values of
parameters, home directories, and the paths that patterns fit.
-/

namespace DriverValidation.Shell.Expansion

/-- The characters at which values are split. -/
def separators (m : Machine) : List Char :=
  match m.valueOf? "IFS" with
  | some s => s.toList
  | none => [' ', '\t', '\n']

/-- The letters of the switches that are on. -/
def letters (s : Switches) : String :=
  String.ofList ((if s.endOnFailure then ['e'] else []) ++ (if s.plainPaths then ['f'] else []) ++
    (if s.onlyRead then ['n'] else []) ++ (if s.tellCommands then ['x'] else []) ++
    (if s.needValues then ['u'] else []))

def valueOf? (m : Machine) (name : List Char) : Option String :=
  match name with
  | ['#'] => some (toString m.arguments.length)
  | ['?'] => some (toString m.status)
  | ['$'] => some (toString m.process)
  | ['-'] => some (letters m.switches)
  | ['!'] => m.jobs.head?.map (toString ·.process)
  | ['@'] | ['*'] =>
    if m.arguments.isEmpty then none else some (String.intercalate " " m.arguments)
  | name =>
    let s := String.ofList name
    if name.all Char.isDigit then
      match s.toNat? with
      | some 0 => some m.name
      | some (n + 1) => m.arguments[n]?
      | none => none
    else m.valueOf? s

/-- A parameter has a value, which may have to be other than empty. -/
def isPresent (value : Option String) (evenIfEmpty : Bool) : Bool :=
  match value with
  | some s => !(evenIfEmpty && s == "")
  | none => false

/-- What a value stands for. -/
def segment (quoted : Bool) (s : String) : Segment :=
  if quoted then .text s.toList true else .value s.toList

/-- What the value of a parameter stands for. All arguments are fields of their own, unless they are
asked for as one text, in which the first separator stands between them. -/
def valueSegments (m : Machine) (name : List Char) (quoted : Bool) : List Segment :=
  if name == ['*'] && quoted then
    let between := String.ofList ((separators m).take 1)
    [segment true (String.intercalate between m.arguments)]
  else if name == ['@'] || name == ['*'] then
    (m.arguments.map (segment quoted)).intersperse .break
  else [segment quoted ((valueOf? m name).getD "")]

/-- The word with the home directory in place of a tilde at its start. -/
def withHome (m : Machine) : Word → Word
  | .text ('~' :: cs) false :: w =>
    let user := String.ofList (cs.takeWhile (· != '/'))
    let rest := cs.dropWhile (· != '/')
    let home? :=
      if rest.isEmpty && !w.isEmpty then none
      else if user == "" then m.valueOf? "HOME"
      else if user == "root" then some "/root"
      else none
    match home? with
    | some home =>
      .text home.toList true :: if rest.isEmpty then w else .text rest false :: w
    | none => .text ('~' :: cs) false :: w
  | w => w

/-- Text that may be split like values. -/
def splittable : Segment → Segment
  | .text cs false => .value cs
  | s => s

/-- The texts of the fields of a word, in which patterns are replaced by the paths that they fit. -/
def texts (m : Machine) (segments : List Segment) : List String :=
  (Fields.ofSegments (separators m) segments).flatMap fun (f : Field) =>
    if m.switches.plainPaths then [f.text]
    else
      match Glob.paths m.tree (Files.Path.ofText m.directory).names f with
      | [] => [f.text]
      | paths => paths

/-- What the output of a command stands for: its text without line feeds at its end. -/
def outputText (bytes : List UInt8) : String :=
  let cs := (Text.Utf8.lenient (bytes.filter (· != 0))).toList
  String.ofList (cs.reverse.dropWhile (· == '\n')).reverse

/-- The complaint about a parameter that has no value. -/
def missing (name : List Char) (evenIfEmpty : Bool) (message : String) : String :=
  let cause :=
    if message != "" then message
    else if evenIfEmpty then "parameter not set or null"
    else "parameter not set"
  String.ofList name ++ ": " ++ cause

end DriverValidation.Shell.Expansion
