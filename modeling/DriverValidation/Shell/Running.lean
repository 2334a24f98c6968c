import DriverValidation.Shell.Machine
import DriverValidation.Shell.Signal

/-!
Steps of a script: they change the state of the machine, and may be interrupted. Here stand the ways in
which steps enclose others: loops, functions, redirections and shells within the shell, which give
back what they set for those that they enclose.
-/

namespace DriverValidation.Shell

/-- A step of a script. -/
abbrev Running := EStateM Interruption Machine

namespace Running

def status (n : Nat) : Running Unit := modify (·.withStatus n)

/-- Fails with a complaint of the shell. -/
def fail {α : Type} (s : String) : Running α := do
  modify (·.shellComplain s 2)
  throw .failed

/-- Fails with a complaint of a command of the shell. -/
def blame {α : Type} (command s : String) : Running α := do
  modify fun m => m.complain (m.label ++ command ++ ": " ++ s) 2
  throw .failed

/-- The time that an orphan takes which the outermost shell has left behind. -/
def leftBehind (m : Machine) : Job := ⟨m.nextProcess, m.elapsed, 0, none, Machine.outputsOf m.files⟩

/-- Goes on unless all is stopped by now, or the shell was killed before. -/
def checkTime : Running Unit := do
  let m ← get
  match m.doom with
  | some (signal, time) =>
    if m.nesting == 0 && time ≤ m.elapsed then
      set { m with elapsed := time, doom := none, orphans := leftBehind m :: m.orphans }
      throw (.killed signal)
  | none => pure ()
  if m.deadline ≤ m.elapsed then throw .stopped

/-- Runs steps and sets something back behind them, whether they are interrupted or not. -/
def enclosed {α : Type} (reset : Machine → Machine → Machine) (steps : Running α) : Running α :=
  fun before =>
    match steps before with
    | .ok a after => .ok a (reset before after)
    | .error i after => .error i (reset before after)

/-- Runs steps after which files lead where they did before. -/
def withFiles {α : Type} (steps : Running α) : Running α :=
  enclosed (fun before after => { after with files := before.files }) steps

/-- Runs steps within a command of the shell that complaints tell. -/
def within {α : Type} (command : String) (steps : Running α) : Running α :=
  enclosed (fun before after => { after with within := before.within }) do
    modify ({ · with within := command })
    steps

/-- Keeps what a parameter is for the end of the function that runs. -/
def hide (name : String) : Running Unit :=
  modify fun m =>
    match m.hidden with
    | [] => m
    | top :: below =>
      if top.any (·.1 == name) then m
      else { m with hidden := ((name, m.parameters.lookup name) :: top) :: below }

/-- Runs steps after which the parameters that they hid are what they were. -/
def withHidden {α : Type} (steps : Running α) : Running α :=
  enclosed (fun before after =>
    let kept := (after.hidden.head?).getD []
    { kept.foldl (fun m (name, p) => m.setParameter name p) after with hidden := before.hidden }) do
    modify fun m => { m with hidden := [] :: m.hidden }
    steps

/-- The number of functions that may run within each other. -/
def deepestCall : Nat := 1000

def call (arguments : List String) (body : Running Unit) : Running Unit := do
  if deepestCall ≤ (← get).calls then
    fail ("Maximum function recursion depth (" ++ toString deepestCall ++ ") reached")
  else
    let steps : Running Unit := do
      modify fun m => { m with arguments, loops := 0, calls := m.calls + 1 }
      try body catch
        | .returned => pure ()
        | i => throw i
    withHidden (enclosed (fun before after =>
      { after with arguments := before.arguments, loops := before.loops, calls := before.calls })
      steps)

def inLoop (steps : Running Unit) : Running Unit :=
  enclosed (fun before after => { after with loops := before.loops }) do
    modify fun m => { m with loops := m.loops + 1 }
    steps

/-- Runs a round of a loop, and tells whether there may be another one. -/
def round (steps : Running Bool) : Running Bool := do
  try steps catch
    | .leave n => if n ≤ 1 then pure false else throw (.leave (n - 1))
    | .again n => if n ≤ 1 then pure true else throw (.again (n - 1))
    | i => throw i

/-- Runs steps as long as a condition holds, and ends with the status of the last round. Loops that
have too many rounds take too long. -/
def loop (condition : Running Bool) (body : Running Unit) : Nat → Nat → Running Unit
  | 0, _ => throw .stopped
  | rounds + 1, last => do
    let more ← round do
      if ← condition then
        body
        return true
      else
        status last
        return false
    if more then loop condition body rounds (← get).status else return ()

def each (body : String → Running Unit) : List String → Running Unit
  | [] => return ()
  | word :: words => do
    let more ← round do
      body word
      return true
    if more then each body words else return ()

/-- Runs steps at the end of a shell. They see the status with which it ends, and change it if they end
the shell themselves. -/
def atEnd (action : String → Running Unit) : Running Unit := do
  let m ← get
  match m.actions.lookup 0 with
  | none => return ()
  | some script =>
    set { m with actions := m.actions.filter (·.1 != 0), leaving := some m.status }
    try
      action script
      status m.status
    catch
      | .exit => pure ()
      | .stopped => throw .stopped
      | .killed n => throw (.killed n)
      | _ => status m.status

/-- Runs the actions for the signals that have arrived. -/
def atSignals (action : String → Running Unit) : Running Unit := do
  let m ← get
  if m.pending.isEmpty then return ()
  else
    set { m with pending := [] }
    m.pending.forM fun signal =>
      match m.actions.lookup signal with
      | none => pure ()
      | some script => do
        modify ({ · with leaving := some m.status })
        action script
        modify ({ · with leaving := none, status := m.status })

/-- Runs the steps of a whole shell: whatever ends it, the action for its end is run. -/
def shell (action : String → Running Unit) (steps : Running Unit) : Running Unit := do
  try steps catch
    | .stopped => throw .stopped
    | .killed n => throw (.killed n)
    | _ => pure ()
  atEnd action

end Running

namespace Machine

/-- The state in which a shell starts within another one. -/
def nested (m : Machine) : Machine :=
  { m with actions := m.actions.filter (·.2 == ""), jobs := [], nesting := m.nesting + 1 }

/-- The state behind another process, which leaves its files, what it wrote, and its jobs. -/
def rejoin (outer inner : Machine) : Machine :=
  { outer with
    tree := inner.tree
    inputs := inner.inputs
    outputs := inner.outputs
    orphans := inner.jobs ++ inner.orphans
    doom := inner.doom
    nextProcess := inner.nextProcess
    elapsed := inner.elapsed
    status := inner.status }

/-- The state after a command was killed that was waited for. -/
def bury (m : Machine) (signal : Nat) : Machine :=
  let m := m.withStatus (128 + signal)
  match Signal.obituary signal with
  | some s => (m.note s).withStatus (128 + signal)
  | none => m

end Machine

namespace Running

/-- Runs steps in a process of their own, of which the state is given; others see its end. -/
def apart (start : Machine → Machine) (steps : Running Unit) : Running Unit := do
  let inOther : Running Unit := fun outer =>
    match steps (start outer) with
    | .ok () inner => .ok () (outer.rejoin inner)
    | .error .stopped inner => .error .stopped (outer.rejoin inner)
    | .error (.killed n) inner => .ok () ((outer.rejoin inner).bury n)
    | .error _ inner => .ok () (outer.rejoin inner)
  inOther
  checkTime

/-- The time that it takes to start a command in the background. -/
def startingTime : Nat := 1000000

/-- Runs steps in the background, which keep some outputs open. -/
def inBackground (holds : List Nat) (steps : Running Unit) : Running Unit := fun outer =>
  let started := { outer.nested with elapsed := outer.elapsed + startingTime }
  let started := { started with nextProcess := outer.nextProcess + 1 }.lead 0 (some .nowhere)
  let finish := fun (inner : Machine) (ending : Nat) (signal : Option Nat) =>
    let status := (signal.map (128 + ·)).getD inner.status
    let job : Job := ⟨outer.nextProcess, ending, status, signal, holds⟩
    let m := outer.rejoin inner
    { m with jobs := job :: outer.jobs, elapsed := outer.elapsed, status := 0 }
  match steps started with
  | .ok () inner => .ok () (finish inner inner.elapsed none)
  | .error i inner =>
    match i with
    | .stopped => .ok () (finish inner (max inner.elapsed outer.deadline) none)
    | .killed n => .ok () (finish inner inner.elapsed (some n))
    | _ => .ok () (finish inner inner.elapsed none)

/-- Runs commands at the same time, of which each reads what the one before writes. They end together
when the last one does; a first one reads what the text `input` leads to. -/
def pipe (input : Option Channel) (latest : Nat) : List (Running Unit) → Running Unit
  | [] => modify fun m => { m with elapsed := max latest m.elapsed }
  | stage :: stages => do
    let before ← get
    let (n, m) := before.addOutput
    set m
    let start := fun (m : Machine) =>
      let m := match input with
        | some channel => m.nested.lead 0 (some channel)
        | none => m.nested
      if stages.isEmpty then m else m.lead 1 (some (.output n))
    apart start stage
    let m ← get
    let (channel, m') := m.addInput (m.written n)
    set { m' with elapsed := if stages.isEmpty then m.elapsed else before.elapsed }
    pipe (some channel) (max latest m.elapsed) stages

/-- Runs steps in a process of their own for what they write. -/
def captured (steps : Running Unit) : Running (List UInt8) := do
  let before ← get
  let (n, m) := before.addOutput
  set m
  apart (fun m => m.nested.lead 1 (some (.output n))) steps
  let m ← get
  set { m with elapsed := m.closing n, substituted := m.status, status := before.status }
  return m.written n

end Running

end DriverValidation.Shell
