import DriverValidation.Shell.Builtin
import DriverValidation.Shell.Expansion
import DriverValidation.Shell.Reader.Command
import DriverValidation.Shell.Redirection

/-!
Running shell scripts. A line is read at a time and run before the next one is read. The recursion is
over the depth to which commands are nested; loops have a number of rounds. A script that needs more is
taken to run for ever.
-/

namespace DriverValidation.Shell.Script

open Running

/-- Where a command stands: it is the last one of its shell, which may become the program that it
starts, and its failure is looked at by another command. -/
structure Position where
  final : Bool
  tested : Bool
  deriving Repr, DecidableEq

/-- The number of rounds of a loop. -/
def rounds : Nat := 200000

/-- The depth to which commands may be nested. -/
def depth : Nat := 20000

/-- Runs the lines of a script, and tells whether there was a command in them. What runs a command is
told whether the script ends with it. -/
def lines (execute : Bool → Command → Running Unit) : Nat → Bool → Source → Running Bool
  | 0, any, _ => return any
  | fuel + 1, any, s => do
    match s.next with
    | .error fault =>
      modify ({ · with line := fault.line })
      fail ("Syntax error: " ++ fault.error.message)
    | .ok (c, ends, s) =>
      modify fun m => { m with documents := m.documents ++ s.documents }
      match c with
      | some c => execute ends c
      | none => pure ()
      let any := any || c.isSome
      if ends then return any else lines execute fuel any { s with documents := [] }

/-- The command of the first case of which a pattern fits. -/
def firstCase (fits : Word → Running Bool) : List Case → Running (Option Command)
  | [] => return none
  | .mk patterns body :: cases => do
    if ← patterns.anyM fits then return body else firstCase fits cases

/-- Ends the shell where a failure does so. -/
def checkFailure (p : Position) : Running Unit := do
  let m ← get
  if m.status != 0 && m.switches.endOnFailure && !p.tested then throw .exit

/-- Tells a command before it runs; complaints go where they did before its redirections. -/
def tell (files : List (Nat × Channel)) (parts : List String) : Running Unit :=
  modify fun m =>
    if m.switches.tellCommands then
      let front := (m.valueOf? "PS4").getD ""
      { { m with files }.note (front ++ String.intercalate " " parts) with files := m.files }
    else m

/-- Runs a command of the shell whose failure does not end it. -/
def forgiving (steps : Running Unit) : Running Unit := do
  try steps catch
    | .failed => pure ()
    | i => throw i

/-- The state in which another shell starts, either in place of the present one or by itself. -/
def fresh (replaces : Bool) (name : String) (m : Machine) : Machine :=
  let exported := m.parameters.filter (·.2.exported)
  let own := Machine.startingParameters.filter (!·.2.exported)
  { m with
    name
    arguments := []
    parameters := exported ++ own
    functions := []
    documents := []
    switches := ⟨false, false, false, false, false⟩
    actions := m.actions.filter (·.2 == "")
    pending := []
    leaving := none
    hidden := []
    jobs := []
    nesting := 0
    doom := none
    process := if replaces then m.process else m.nextProcess
    nextProcess := m.nextProcess + 1
    loops := 0
    calls := 0
    line := 0
    within := ""
    substituted := 0
    status := 0 }

/-- Runs the steps of another shell, which may take the place of the present one. -/
def asProgram (replaces : Bool) (name : String) (steps : Running Unit) : Running Unit :=
  fun outer =>
    match steps (fresh replaces name outer) with
    | .error (.killed n) inner =>
      if replaces then .error (.killed n) (rejoin outer inner)
      else .ok () ((rejoin outer inner).bury n)
    | .error .stopped inner => .error .stopped (rejoin outer inner)
    | .error _ inner | .ok _ inner => .ok () (rejoin outer inner)
where
  /-- The state behind the other shell, whose doom is its own. -/
  rejoin (outer inner : Machine) : Machine := { outer.rejoin inner with doom := outer.doom }

/-- How a shell was started: whether its first operand is a script, and whether it reads one. -/
structure Start where
  ofText : Bool
  ofInput : Bool
  operands : List String
  deriving Repr, DecidableEq

def readOptions (start : Start) : Nat → List String → Running Start
  | 0, operands => return { start with operands }
  | _ + 1, [] => return { start with operands := [] }
  | fuel + 1, s :: rest => do
    let set := fun (on : Bool) (cs : List Char) => do
      let start := { start with
        ofText := start.ofText || (on && cs.contains 'c')
        ofInput := start.ofInput || (on && cs.contains 's') }
      let others := cs.filter fun c => c != 'c' && c != 'l'
      readOptions start fuel (← Builtin.switchAll fail on rest others)
    match s.toList with
    | ['-'] | ['-', '-'] => return { start with operands := rest }
    | '-' :: cs => set true cs
    | '+' :: cs => set false cs
    | _ => return { start with operands := s :: rest }

mutual

/-- What the pieces of a word stand for. -/
def segments : Nat → Word → Running (List Segment)
  | 0, _ => throw .stopped
  | _ + 1, [] => return []
  | fuel + 1, .text [] true :: .parameter ['@'] .value true :: w => do
    let m ← get
    let first :=
      if m.arguments.isEmpty then []
      else .text [] true :: Expansion.valueSegments m ['@'] true
    return first ++ (← segments fuel w)
  | fuel + 1, piece :: w => do
    let first ←
      match piece with
      | .text cs quoted => pure [.text cs quoted]
      | .parameter name use quoted => parameter fuel name use quoted
      | .sum pieces quoted => do
        let written ← text fuel pieces
        let m ← get
        match Sum.evaluate (fun name => (Expansion.valueOf? m name).getD "") written.toList with
        | .error e => fail e
        | .ok (n, assigned) =>
          assigned.forM fun (name, n) =>
            Builtin.assign none (String.ofList name) (toString n)
          pure [Expansion.segment quoted (toString n)]
      | .output c quoted => do
        let bytes ←
          match c with
          | some c => captured (shell (action fuel) (run ⟨true, false⟩ fuel c))
          | none => pure []
        pure [Expansion.segment quoted (Expansion.outputText bytes)]
    return first ++ (← segments fuel w)

/-- What the use of a parameter stands for. -/
def parameter (fuel : Nat) (name : List Char) (use : Use) (quoted : Bool) :
    Running (List Segment) :=
  match fuel with
  | 0 => throw .stopped
  | fuel + 1 => do
    let m ← get
    let value := Expansion.valueOf? m name
    let check : Running Unit :=
      if m.switches.needValues && value.isNone && name != ['@'] && name != ['*'] then
        fail (Expansion.missing name false "")
      else pure ()
    match use with
    | .malformed => fail "Bad substitution"
    | .value => do
      check
      return Expansion.valueSegments m name quoted
    | .length => do
      check
      return [Expansion.segment quoted (toString (value.getD "").utf8ByteSize)]
    | .fallback evenIfEmpty kind w =>
      let present := Expansion.isPresent value evenIfEmpty
      let other : Running (List Segment) := do
        let segments ← segments fuel w
        return if quoted then segments else segments.map Expansion.splittable
      match kind with
      | .invert => if present then other else return []
      | .substitute => if present then return Expansion.valueSegments m name quoted else other
      | .assign =>
        if present then return Expansion.valueSegments m name quoted
        else if !isName name then fail (Builtin.badName (String.ofList name))
        else do
          let s ← text fuel w
          Builtin.assign none (String.ofList name) s
          return [Expansion.segment quoted s]
      | .complain =>
        if present then return Expansion.valueSegments m name quoted
        else do fail (Expansion.missing name evenIfEmpty (← text fuel w))
    | .cut atStart longest w => do
      check
      let pattern := Glob.ofChars (Segment.joined (← segments fuel w))
      let cs := (value.getD "").toList
      let cs :=
        if atStart then Glob.cutStart longest pattern cs else Glob.cutEnd longest pattern cs
      return [Expansion.segment quoted (String.ofList cs)]

/-- The text that a word stands for where it is not split. -/
def text (fuel : Nat) (w : Word) : Running String :=
  match fuel with
  | 0 => throw .stopped
  | fuel + 1 => do
    let w := Expansion.withHome (← get) w
    return Field.text (Segment.joined (← segments fuel w))

/-- The arguments that words stand for. Words that give values to parameters are not split behind the
commands that declare those. -/
def arguments (fuel : Nat) (declares : Bool) (words : List Word) : Running (List String) :=
  match fuel, words with
  | 0, _ => throw .stopped
  | _ + 1, [] => return []
  | fuel + 1, w :: words => do
    let first ←
      if declares && (Word.assignment? w).isSome then do pure [← text fuel w]
      else do
        let w := Expansion.withHome (← get) w
        let segments ← segments fuel w
        pure (Expansion.texts (← get) segments)
    let isDeclaration := first.head?.any ["export", "readonly", "local"].contains
    return first ++ (← arguments fuel (declares || isDeclaration) words)

/-- Leads files where redirections ask for, and tells whether all could be opened. -/
def redirect (fuel : Nat) (redirects : List Redirect) : Running Bool :=
  match fuel, redirects with
  | 0, _ => throw .stopped
  | _ + 1, [] => return true
  | fuel + 1, r :: redirects => do
    let opened ←
      match r with
      | .opened file way path => do Redirection.openAt file way (← text fuel path)
      | .duplicate file target => do Redirection.duplicate file (← text fuel target)
      | .document file number => do
        let w := ((← get).documents.lookup number).getD []
        try
          Redirection.readFrom file (Segment.joined (← segments fuel w)).text
          pure true
        catch
          | .failed => pure false
          | i => throw i
    if opened then redirect fuel redirects else return false

/-- Gives values to parameters, of which others see them only while a command runs. Gives back how
that is told. -/
def assignAll (fuel : Nat) (hidden : Bool) (assignments : List (List Char × Word)) :
    Running (List String) :=
  match fuel, assignments with
  | 0, _ => throw .stopped
  | _ + 1, [] => return []
  | fuel + 1, (name, w) :: assignments => do
    let value ← text fuel w
    let name := String.ofList name
    if hidden then hide name
    Builtin.assign none name value
    if hidden then
      modify fun m => m.setParameter name (some ⟨some value, true, false⟩)
    return (name ++ "=" ++ value) :: (← assignAll fuel hidden assignments)

/-- Runs the action for a signal, or for the end of a shell. -/
def action (fuel : Nat) (s : String) : Running Unit :=
  match fuel with
  | 0 => throw .stopped
  | fuel + 1 => do let _ ← script ⟨false, false⟩ fuel s

def simple (p : Position) (line : Nat) (assignments : List (List Char × Word)) (words : List Word)
    (redirects : List Redirect) (fuel : Nat) : Running Unit :=
  match fuel with
  | 0 => throw .stopped
  | fuel + 1 => do
    modify ({ · with line, substituted := 0 })
    let words ← arguments fuel false words
    let files := (← get).files
    match words with
    | [] =>
      withFiles do
        if ← redirect fuel redirects then
          let told ← assignAll fuel false assignments
          if !told.isEmpty then tell files told
          status (← get).substituted
        else status 2
    | ["exec"] =>
      if ← redirect fuel redirects then
        tell files ((← assignAll fuel false assignments) ++ words)
        status 0
      else
        status 2
        throw .failed
    | name :: operands =>
      let special := specialCommands.contains name
      withFiles do
        if ← redirect fuel redirects then
          if special || assignments.isEmpty then
            tell files ((← assignAll fuel false assignments) ++ words)
            invoke p false name operands fuel
          else
            withHidden do
              tell files ((← assignAll fuel true assignments) ++ words)
              invoke p false name operands fuel
        else
          status 2
          if special then throw .failed

/-- Runs a command with its arguments: a function, a command of the shell, or a program. Functions do
not count and failures do not end the shell where `bare` holds. -/
def invoke (p : Position) (bare : Bool) (name : String) (operands : List String) (fuel : Nat) :
    Running Unit :=
  match fuel with
  | 0 => throw .stopped
  | fuel + 1 => do
    let m ← get
    match if bare then none else m.functions.lookup name.toList with
    | some body => call operands (run ⟨false, p.tested⟩ fuel body)
    | none =>
      let guarded := fun (steps : Running Unit) =>
        if bare || !specialCommands.contains name then forgiving steps else steps
      match name with
      | "eval" =>
        guarded (within "eval" do
          let any ← script ⟨false, p.tested⟩ fuel (String.intercalate " " operands)
          if !any then status 0)
      | "." =>
        match operands with
        | [] => status 0
        | path :: _ => guarded (runFile path fuel)
      | "exec" =>
        within "exec" (execute true (operands.head?.getD "") operands.tail fuel)
        modify ({ · with actions := [] })
        throw .exit
      | "command" =>
        let (letters, operands) ← Builtin.options "command" "pvV" operands
        match operands with
        | [] => status 0
        | name :: operands =>
          if letters.contains 'v' then Builtin.tellPath name
          else if letters.contains 'V' then Builtin.tellMeanings (name :: operands)
          else invoke p true name operands fuel
      | name =>
        match Builtin.run? name operands with
        | some steps => guarded steps
        | none => execute p.final name operands fuel

/-- Runs the script in a file as if it stood here. -/
def runFile (path : String) (fuel : Nat) : Running Unit :=
  match fuel with
  | 0 => throw .stopped
  | fuel + 1 => do
    let m ← get
    let directories := (((m.valueOf? "PATH").getD "").toList.splitOn ':').map String.ofList
    let paths :=
      if path.toList.contains '/' then [path]
      else directories.map fun directory => Files.Path.join directory path
    match paths.find? fun path => (m.entry? path).isSome with
    | some found =>
      let bytes := (m.tree.read (m.full found)).toOption.getD []
      within path do
        try
          let any ← script ⟨false, false⟩ fuel (Text.Utf8.lenient bytes)
          if !any then status 0
        catch
          | .returned => pure ()
          | i => throw i
    | none =>
      if path.toList.contains '/' then
        Running.blame "." ("cannot open " ++ path ++ ": No such file")
      else Running.blame "." (path ++ ": not found")

/-- Runs a program with its arguments, in place of the shell where it is the last one. -/
def execute (final : Bool) (name : String) (operands : List String) (fuel : Nat) : Running Unit :=
  match fuel with
  | 0 => throw .stopped
  | fuel + 1 => do
    let m ← get
    let replaces := final && m.actions.all (·.2 == "")
    match (Builtin.locate? m name).bind fun path => Utility.ofPath? (m.full path) with
    | some program =>
      match Utility.program? program with
      | some run =>
        set (run operands m)
        checkTime
      | none => asProgram replaces name (shell (action fuel) (start operands fuel))
    | none =>
      if name.toList.contains '/' && (m.entry? name).isSome then
        set (m.shellComplain (name ++ ": Permission denied") 126)
      else set (m.shellComplain (name ++ ": not found") 127)

def start (operands : List String) (fuel : Nat) : Running Unit :=
  match fuel with
  | 0 => throw .stopped
  | fuel + 1 => do
    let s ← readOptions ⟨false, false, []⟩ (operands.length + 1) operands
    if s.ofText then
      match s.operands with
      | [] => fail "-c requires an argument"
      | text :: rest =>
        modify fun m => { m with name := rest.head?.getD m.name, arguments := rest.tail, line := 1 }
        let _ ← script ⟨!s.ofInput, false⟩ fuel text
    else
      match s.ofInput, s.operands with
      | false, path :: rest =>
        let m ← get
        match m.tree.read (m.full path) with
        | .error .isADirectory => pure ()
        | .error _ => fail ("cannot open " ++ path ++ ": No such file")
        | .ok bytes =>
          set { m with name := path, arguments := rest, line := 1 }
          let _ ← script ⟨false, false⟩ fuel (Text.Utf8.lenient bytes)
      | _, arguments =>
        let m ← get
        set ({ m with arguments, line := 1 }.withInput [])
        let _ ← script ⟨false, false⟩ fuel (Text.Utf8.lenient m.input)

def run (p : Position) (fuel : Nat) (c : Command) : Running Unit :=
  match fuel with
  | 0 => throw .stopped
  | fuel + 1 => do
    let inside := fun (c : Command) => run ⟨false, p.tested⟩ fuel c
    let asCondition := fun (c : Command) => run ⟨false, true⟩ fuel c
    let asShell := fun (c : Command) => shell (action fuel) (run ⟨true, p.tested⟩ fuel c)
    if (← get).switches.onlyRead then return ()
    else
      match c with
      | .simple line assignments words redirects =>
        simple p line assignments words redirects fuel
        atSignals (action fuel)
        checkFailure p
      | .negated c =>
        asCondition c
        modify fun m => m.withStatus (if m.status == 0 then 1 else 0)
      | .both a b =>
        asCondition a
        if (← get).status == 0 then run p fuel b
      | .either a b =>
        asCondition a
        if (← get).status != 0 then run p fuel b
      | .sequence a b =>
        inside a
        run p fuel b
      | .pipe stages =>
        pipe none 0 (stages.map asShell)
        checkTime
        checkFailure p
      | .background c =>
        inBackground (Redirection.holds (← get).files c) (asShell c)
      | .loop whileTrue condition body =>
        let holds : Running Bool := do
          asCondition condition
          return ((← get).status == 0) == whileTrue
        inLoop (loop holds (inside body) rounds 0)
      | .branch condition consequence alternative =>
        asCondition condition
        if (← get).status == 0 then run p fuel consequence
        else
          match alternative with
          | some c => run p fuel c
          | none => status 0
      | .each line name words body =>
        modify ({ · with line })
        let words ← arguments fuel false words
        status 0
        let round := fun (word : String) => do
          Builtin.assign none (String.ofList name) word
          inside body
        inLoop (each round words)
      | .choice line subject cases =>
        modify ({ · with line })
        let subject ← text fuel subject
        let fits := fun (w : Word) => do
          let w := Expansion.withHome (← get) w
          return Glob.fits (Glob.ofChars (Segment.joined (← segments fuel w))) subject.toList
        match ← firstCase fits cases with
        | some c => run p fuel c
        | none => status 0
      | .define name body =>
        modify fun m =>
          { m with functions := (name, body) :: m.functions.filter (·.1 != name), status := 0 }
      | .group line c redirects =>
        modify ({ · with line })
        withFiles do
          if ← redirect fuel redirects then inside c
          else
            status 2
            checkFailure p
      | .isolated line c redirects =>
        modify ({ · with line })
        apart Machine.nested do
          if ← redirect fuel redirects then asShell c else status 2
        checkFailure p

/-- Runs the lines of a script, and tells whether there was a command in them. -/
def script (p : Position) (fuel : Nat) (s : String) : Running Bool :=
  match fuel with
  | 0 => throw .stopped
  | fuel + 1 => do
    let m ← get
    let execute := fun (ends : Bool) (c : Command) => run ⟨p.final && ends, p.tested⟩ fuel c
    lines execute (s.length + 2) false (Source.start s.toList 1 m.documents.length)

end

/-- Runs the shell that a first command starts, up to what interrupts it. -/
def outermost (name : String) (operands : List String) (m : Machine) :
    Option Interruption × Machine :=
  match shell (action depth) (start operands depth) { m with name, line := 0 } with
  | .ok _ m => (none, m)
  | .error i m => (some i, m)

end DriverValidation.Shell.Script
