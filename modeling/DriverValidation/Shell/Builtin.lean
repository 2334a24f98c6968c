import DriverValidation.Shell.Fields
import DriverValidation.Shell.Running
import DriverValidation.Shell.Token
import DriverValidation.Shell.Utility

/-!
The commands that a shell runs itself, but for those that run others.
-/

namespace DriverValidation.Shell

/-- The commands of the shell that are no special ones. -/
def regularCommands : List String :=
  ["[", "cd", "command", "echo", "false", "hash", "jobs", "kill", "printf", "pwd", "read", "test",
    "true", "type", "umask", "wait"]

namespace Builtin

open Running

/-- The number that an argument of a command stands for. -/
def number (command s : String) : Running Nat :=
  match Utility.Condition.decimal? s with
  | some n =>
    if 0 ≤ n && n < 0x80000000 then return n.toNat else blame command (Sum.illegalNumber s)
  | none => blame command (Sum.illegalNumber s)

/-- The letters that are given in front of the operands of a command, which knows some. -/
def options (command known : String) : List String → Running (List Char × List String)
  | [] => return ([], [])
  | s :: rest =>
    match s.toList with
    | ['-', '-'] => return ([], rest)
    | '-' :: c :: cs => do
      match (c :: cs).find? (!known.toList.contains ·) with
      | some wrong => blame command ("Illegal option -" ++ String.singleton wrong)
      | none =>
        let (letters, operands) ← options command known rest
        return (c :: cs ++ letters, operands)
    | _ => return ([], s :: rest)

/-- Gives a parameter a value, or fails within a command of the shell, or outside of any. -/
def assign (command : Option String) (name value : String) : Running Unit := do
  match (← get).assign name value with
  | .ok m => set m
  | .error e =>
    match command with
    | some c => blame c e
    | none => fail e

def badName (s : String) : String := s ++ ": bad variable name"

/-- The name and the value of an argument that gives a parameter a value, or the name alone. -/
def declaration (command s : String) : Running (String × Option String) := do
  let name := s.toList.takeWhile (· != '=')
  if !isName name then blame command (badName (String.ofList name))
  else
    return (String.ofList name, match s.toList.dropWhile (· != '=') with
      | _ :: value => some (String.ofList value)
      | [] => none)

def declare (command : String) (change : Parameter → Parameter) (arguments : List String) :
    Running Unit := do
  let (_, operands) ← options command "p" arguments
  operands.forM fun s => do
    let (name, value?) ← declaration command s
    match value? with
    | some value => assign (some command) name value
    | none => pure ()
    modify fun m => m.setParameter name (some (change ((m.parameters.lookup name).getD ⟨none, false, false⟩)))
  status 0

/-- Makes parameters of a function that are its own. -/
def declareLocal (arguments : List String) : Running Unit := do
  if (← get).calls == 0 then blame "local" "not in a function"
  else
    arguments.forM fun s => do
      let (name, value?) ← declaration "local" s
      hide name
      match value? with
      | some value => assign (some "local") name value
      | none => pure ()
    status 0

def unset (arguments : List String) : Running Unit := do
  let (letters, operands) ← options "unset" "vf" arguments
  operands.forM fun s => do
    if letters.contains 'f' then
      modify fun m => { m with functions := m.functions.filter (·.1 != s.toList) }
    else if !isName s.toList then blame "unset" (badName s)
    else
      match (← get).parameters.lookup s with
      | some p => if p.fixed then blame "unset" (Machine.isFixed s) else modify (·.setParameter s none)
      | none => pure ()
  status 0

/-- The switch of a letter set to a value, if there is such a letter. -/
def switch? (on : Bool) (s : Switches) : Char → Option Switches
  | 'e' => some { s with endOnFailure := on }
  | 'u' => some { s with needValues := on }
  | 'f' => some { s with plainPaths := on }
  | 'x' => some { s with tellCommands := on }
  | 'n' => some { s with onlyRead := on }
  | c => if "ImsvVECabi".toList.contains c then some s else none

def switchNames : List (String × Char) :=
  [("errexit", 'e'), ("noglob", 'f'), ("nounset", 'u'), ("xtrace", 'x'), ("noexec", 'n'),
    ("ignoreeof", 'I'), ("interactive", 'i'), ("monitor", 'm'), ("stdin", 's'), ("verbose", 'v'),
    ("vi", 'V'), ("emacs", 'E'), ("noclobber", 'C'), ("allexport", 'a'), ("notify", 'b')]

/-- Sets the switches that the letters of an argument name. The name of a switch may stand in the next
argument. -/
def switchAll (fault : String → Running (List String)) (on : Bool) (rest : List String) :
    List Char → Running (List String)
  | [] => return rest
  | 'o' :: cs => do
    match rest with
    | [] => switchAll fault on rest cs
    | name :: rest =>
      match (switchNames.lookup name).bind (switch? on (← get).switches) with
      | some switches =>
        modify ({ · with switches })
        switchAll fault on rest cs
      | none => fault ("Illegal option -o " ++ name)
  | c :: cs => do
    match switch? on (← get).switches c with
    | some switches =>
      modify ({ · with switches })
      switchAll fault on rest cs
    | none => fault ("Illegal option -" ++ String.singleton c)

def setAll : Nat → List String → Running Unit
  | 0, _ | _, [] => return ()
  | fuel + 1, s :: rest =>
    match s.toList with
    | ['-', '-'] => modify ({ · with arguments := rest })
    | ['-'] => do
      modify fun m => { m with switches := { m.switches with tellCommands := false } }
      if !rest.isEmpty then modify ({ · with arguments := rest })
    | '-' :: cs => do setAll fuel (← switchAll (blame "set") true rest cs)
    | '+' :: cs => do setAll fuel (← switchAll (blame "set") false rest cs)
    | _ => modify ({ · with arguments := s :: rest })

/-- Reads the bytes of a line, which goes on behind a backslash at its end unless those are plain. -/
def readLine (plain : Bool) : List UInt8 → List (UInt8 × Bool) × List UInt8 × Bool
  | [] => ([], [], true)
  | 10 :: rest => ([], rest, false)
  | 92 :: rest =>
    if plain then
      let (bytes, after, ended) := readLine plain rest
      ((92, false) :: bytes, after, ended)
    else
      match rest with
      | [] => ([], [], true)
      | 10 :: rest => readLine plain rest
      | b :: rest =>
        let (bytes, after, ended) := readLine plain rest
        ((b, true) :: bytes, after, ended)
  | b :: rest =>
    let (bytes, after, ended) := readLine plain rest
    if b == 0 then (bytes, after, ended) else ((b, false) :: bytes, after, ended)

/-- The characters of bytes. Those of a character of several bytes are plain if its first one is. -/
def charactersOf (bytes : List (UInt8 × Bool)) : Field :=
  let runs := bytes.splitBy fun a b => a.2 == b.2
  runs.flatMap fun run =>
    (Text.Utf8.lenient (run.map (·.1))).toList.map (·, (run.head?.map (·.2)).getD false)

/-- Splits off the first field of a line. -/
def firstField (separators : List Char) (cs : Field) : Field × Field :=
  let isSeparator := fun (c : Char × Bool) => !c.2 && separators.contains c.1
  let isBlank := fun (c : Char × Bool) => isSeparator c && (c.1 == ' ' || c.1 == '\t' || c.1 == '\n')
  let cs := cs.dropWhile isBlank
  let field := cs.takeWhile (!isSeparator ·)
  let rest := (cs.dropWhile (!isSeparator ·)).dropWhile isBlank
  match rest with
  | c :: after => if isSeparator c then (field, after.dropWhile isBlank) else (field, rest)
  | [] => (field, [])

/-- The fields of a line for a number of parameters, the last of which takes all that is left. -/
def fieldsOf (separators : List Char) : Nat → Field → List Field
  | 0, _ => []
  | 1, cs =>
    let isBlank := fun (c : Char × Bool) =>
      !c.2 && separators.contains c.1 && (c.1 == ' ' || c.1 == '\t' || c.1 == '\n')
    let cs := cs.dropWhile isBlank
    let (field, rest) := firstField separators cs
    if rest.isEmpty then [field] else [(cs.reverse.dropWhile isBlank).reverse]
  | n + 1, cs =>
    let (field, rest) := firstField separators cs
    field :: fieldsOf separators n rest

def read (arguments : List String) : Running Unit := do
  let (letters, operands) ← options "read" "rp" arguments
  let operands := if letters.contains 'p' then operands.tail else operands
  if operands.isEmpty then blame "read" "arg count"
  else
    let m ← get
    let (bytes, rest, ended) := readLine (letters.contains 'r') m.input
    set (m.withInput rest)
    let separators := ((m.valueOf? "IFS").getD " \t\n").toList
    let fields := fieldsOf separators operands.length (charactersOf bytes)
    (operands.zip fields).forM fun (name, field) => do
      if isName name.toList then assign (some "read") name field.text
      else blame "read" (badName name)
    status (if ended then 1 else 0)

def changeDirectory (arguments : List String) : Running Unit := do
  let (_, operands) ← options "cd" "LP" arguments
  let m ← get
  let back := operands.head? == some "-"
  let path :=
    match operands.head? with
    | none => (m.valueOf? "HOME").getD ""
    | some "-" => (m.valueOf? "OLDPWD").getD ""
    | some path => path
  let found := if path == "" then .ok ([], some .directory) else m.tree.locate (.ofText (m.full path))
  match found with
  | .ok (place, some .directory) =>
    let here := "/" ++ String.intercalate "/" place
    let here := if path == "" then (m.valueOf? "PWD").getD "/" else here
    let m := m.setParameter "OLDPWD" (some ⟨m.valueOf? "PWD", true, false⟩)
    let m := m.setParameter "PWD" (some ⟨some here, true, false⟩)
    let m := { m with directory := if here == "/" then "" else here }
    set ((if back then m.print (here ++ "\n") else m).withStatus 0)
  | _ => blame "cd" ("can't cd to " ++ path)

/-- What a name means as a command. -/
inductive Meaning where
  | keyword
  | special
  | function
  | builtin
  | program (path : String)
  | missing
  deriving Repr, DecidableEq

/-- The path at which a program is found, if it is. -/
def locate? (m : Machine) (name : String) : Option String :=
  if name.toList.contains '/' then
    if (Utility.ofPath? (m.full name)).isSome then some name else none
  else
    let directories := (((m.valueOf? "PATH").getD "").toList.splitOn ':').map String.ofList
    (directories.map fun directory => Files.Path.join directory name).find? fun path =>
      (Utility.ofPath? (m.full path)).isSome

def meaning (m : Machine) (name : String) : Meaning :=
  if Token.keywords.contains name then .keyword
  else if specialCommands.contains name then .special
  else if (m.functions.lookup name.toList).isSome then .function
  else if regularCommands.contains name then .builtin
  else
    match locate? m name with
    | some path => .program path
    | none => .missing

def tellMeanings (names : List String) : Running Unit := do
  status 0
  names.forM fun name => do
    let m ← get
    let told :=
      match meaning m name with
      | .keyword => " is a shell keyword"
      | .special => " is a special shell builtin"
      | .function => " is a shell function"
      | .builtin => " is a shell builtin"
      | .program path => " is " ++ path
      | .missing => ": not found"
    let m := m.print (name ++ told ++ "\n")
    set (if meaning m name == .missing then m.withStatus 127 else m)

/-- Tells how a name is found. -/
def tellPath (name : String) : Running Unit := do
  let m ← get
  match meaning m name with
  | .missing => status 127
  | .program path => set ((m.print (path ++ "\n")).withStatus 0)
  | _ => set ((m.print (name ++ "\n")).withStatus 0)

/-- The end of a job that is killed, unless it has ended. -/
def killJob (m : Machine) (signal : Nat) (j : Job) : Job :=
  if m.elapsed < j.ending && signal != 0 && !Signal.ignored.contains signal &&
      !Signal.halting.contains signal then
    { j with ending := m.elapsed, status := 128 + signal, signal := some signal }
  else j

/-- Sends a signal to the outermost shell. -/
def killShell (signal : Nat) : Running Unit := do
  let m ← get
  let action :=
    if m.nesting != 0 || Signal.unavoidable.contains signal then none else m.actions.lookup signal
  match action with
  | some "" => return ()
  | some _ => set { m with pending := m.pending ++ [signal] }
  | none =>
    if signal == 0 || Signal.ignored.contains signal then return ()
    else if Signal.halting.contains signal then throw .stopped
    else if m.nesting == 0 then throw (.killed signal)
    else if m.doom.isNone then set { m with doom := some (signal, m.elapsed) }

def sendAll (signal : Nat) : List String → Running Bool
  | [] => return true
  | target :: targets => do
    let n ← number "kill" target
    let m ← get
    let known := n == m.process || n == 1 || m.jobs.any (·.process == n)
    if n == m.process then killShell signal
    else if known then
      set { m with jobs := m.jobs.map fun (j : Job) => if j.process == n then killJob m signal j else j }
    else set (m.complain (m.label ++ "kill: No such process\n") 1)
    let rest ← sendAll signal targets
    return known && rest

def killUsage : String :=
  "Usage: kill [-s sigspec | -signum | -sigspec] [pid | job]... or\nkill -l [exitstatus]"

def kill (arguments : List String) : Running Unit := do
  let send := fun (signal : Nat) (targets : List String) => do
    if targets.isEmpty then blame "kill" killUsage
    else status (if ← sendAll signal targets then 0 else 1)
  let named := fun (name : String) (targets : List String) => do
    match Signal.ofText? 1 name with
    | some signal => send signal targets
    | none => blame "kill" ("invalid signal number or name: " ++ name)
  match arguments with
  | [] => blame "kill" killUsage
  | first :: rest =>
    match first.toList with
    | '-' :: cs =>
      match Signal.ofText? 1 (String.ofList cs), cs, rest with
      | some signal, _, rest => send signal rest
      | none, ['-'], rest => send 15 rest
      | none, ['s'], name :: rest => named name rest
      | none, ['s'], [] => blame "kill" "No arg for -s option"
      | none, 's' :: name, rest => named (String.ofList name) rest
      | none, ['l'], [] =>
        let lines := (toString (0 : Nat) :: Signal.names.tail).map (· ++ "\n")
        modify fun m => (m.print (String.join lines)).withStatus 0
      | none, ['l'], s :: _ =>
        let n ← number "kill" s
        match Signal.names[if 128 < n then n - 128 else n]? with
        | some name => modify fun m => (m.print (name ++ "\n")).withStatus 0
        | none => blame "kill" ("invalid signal number or exit status: " ++ s)
      | none, c :: _, _ => blame "kill" ("Illegal option -" ++ String.singleton c)
      | none, [], _ => blame "kill" (Sum.illegalNumber "-")
    | _ => send 15 (first :: rest)

def quoted (s : String) : String :=
  "'" ++ String.ofList (s.toList.flatMap fun c => if c == '\'' then "'\"'\"'".toList else [c]) ++ "'"

def trapAll (action : Option String) : List String → Running Unit
  | [] => status 0
  | name :: names => do
    match Signal.ofText? 0 name with
    | none => modify fun m => m.complain ("trap: " ++ name ++ ": bad trap") 1
    | some signal =>
      modify fun m =>
        let others := m.actions.filter (·.1 != signal)
        { m with actions := (action.map (signal, ·)).toList ++ others }
      trapAll action names

def trap (arguments : List String) : Running Unit := do
  let (_, operands) ← options "trap" "" arguments
  match operands with
  | [] =>
    modify fun m =>
      let lines := m.actions.map fun (signal, action) =>
        "trap -- " ++ quoted action ++ " " ++ (Signal.names[signal]?).getD "" ++ "\n"
      (m.print (String.join lines)).withStatus 0
  | first :: rest =>
    if rest.isEmpty || (first != "" && first.toList.all Char.isDigit) then trapAll none operands
    else trapAll (if first == "-" then none else some first) rest

def wait (arguments : List String) : Running Unit := do
  let (_, operands) ← options "wait" "" arguments
  if operands.isEmpty then
    modify fun m =>
      { m with elapsed := (m.jobs.map (·.ending)).foldl max m.elapsed, status := 0 }
  else
    operands.forM fun s => do
      let n ← number "wait" s
      modify fun m =>
        match m.jobs.find? (·.process == n) with
        | none => m.withStatus 127
        | some j =>
          let m := { m with elapsed := max m.elapsed j.ending, status := j.status }
          match j.signal with
          | some signal => m.bury signal
          | none => m
  checkTime

/-- Leaves loops, or goes on with their next round. -/
def leaveLoops (command : String) (interruption : Nat → Interruption) (arguments : List String) :
    Running Unit := do
  let n ←
    match arguments with
    | [] => pure 1
    | s :: _ => number command s
  if n == 0 then blame command (Sum.illegalNumber (arguments.head?.getD ""))
  else
    status 0
    let loops := min n (← get).loops
    if loops != 0 then throw (interruption loops)

/-- What a command of the shell does with its arguments, if it runs no others. -/
def run? (name : String) (arguments : List String) : Option (Running Unit) :=
  let utility := fun (action : Utility.Action) => some (modify (action arguments))
  match name with
  | ":" | "true" | "hash" | "jobs" | "umask" =>
    some (if name == "umask" && arguments.isEmpty then modify fun m => (m.print "0022\n").withStatus 0
      else status 0)
  | "false" => some (status 1)
  | "echo" => utility (Utility.echo .shell)
  | "printf" => utility (Utility.printf .shell)
  | "test" => utility (Utility.test .shell "test")
  | "[" => utility (Utility.bracket .shell)
  | "exit" => some do
      match arguments with
      | s :: _ => status ((← number "exit" s) % 256)
      | [] => modify fun m => m.withStatus (m.leaving.getD m.status)
      throw .exit
  | "return" => some do
      match arguments with
      | s :: _ => status (← number "return" s)
      | [] => pure ()
      throw .returned
  | "break" => some (leaveLoops "break" .leave arguments)
  | "continue" => some (leaveLoops "continue" .again arguments)
  | "shift" => some do
      let n ←
        match arguments with
        | s :: _ => number "shift" s
        | [] => pure 1
      let m ← get
      if m.arguments.length < n then blame "shift" "can't shift that many"
      else set { m with arguments := m.arguments.drop n, status := 0 }
  | "set" => some do
      setAll (arguments.length + 1) arguments
      status 0
  | "export" => some (declare "export" ({ · with exported := true }) arguments)
  | "readonly" => some (declare "readonly" ({ · with fixed := true }) arguments)
  | "local" => some (declareLocal arguments)
  | "unset" => some (unset arguments)
  | "read" => some (read arguments)
  | "cd" => some (changeDirectory arguments)
  | "pwd" => some (modify fun m => (m.print ((m.valueOf? "PWD").getD "/" ++ "\n")).withStatus 0)
  | "type" => some (tellMeanings arguments)
  | "kill" => some (kill arguments)
  | "trap" => some (trap arguments)
  | "wait" => some (wait arguments)
  | "times" =>
    let line := "0m0.000000s 0m0.000000s\n"
    some (modify fun m => (m.print (line ++ line)).withStatus 0)
  | _ => none

end Builtin

end DriverValidation.Shell
