import DriverValidation.Shell.Reader.Token

/-!
Reading commands. A line is read at a time, so that the lines before a malformed one are run.
-/

namespace DriverValidation.Shell

/-- What kind of list of commands is read: that of a line, one that may not be empty, or one that
may. -/
inductive ListKind where
  | line
  | body
  | optional
  deriving Repr, DecidableEq

/-- One command behind another one, if there is one. -/
def Command.behind (first : Option Command) (next : Command) : Command :=
  match first with
  | some c => .sequence c next
  | none => next

namespace Reader

open Reading

/-- A reader of lists of commands: what is read behind the commands that were read, and whether the
text ends with it. -/
abbrev ListReader := ListKind → Reading (Option Command × Bool)

/-- How commands in words are read, if lists of them are read in a certain way. -/
def inWords (lists : ListReader) : CommandReader where
  bracketed := do
    let before ← get
    set { before with looked := none, announced := [] }
    let (c, _) ← lists .optional
    let after ← get
    match after.looked with
    | some .closing =>
      set { after with looked := before.looked, announced := before.announced }
      return c
    | some t => fail (.unexpected t (some .closing))
    | none => fail .tooDeep
  ofText := fun script => do
    let before ← get
    set { before with rest := script, looked := none, announced := [] }
    let (c, _) ← lists .optional
    modify fun after => { before with documents := after.documents, fresh := after.fresh }
    return c

def next (lists : ListReader) (keywords : Bool) : Reading Token := do
  token (inWords lists) false keywords .bare (← size)

/-- Reads a token behind line breaks. -/
def nextOverBreaks (lists : ListReader) : Reading Token := do
  token (inWords lists) true true .bare (← size)

/-- Reads the documents that were announced on a line. -/
def endLine (lists : ListReader) : Reading Unit := do
  documents (inWords lists) ((← get).announced.length + 1)

def expect (lists : ListReader) (name : String) : Reading Unit := do
  let t ← next lists true
  if t.isKeyword name then return () else fail (.unexpected t (some (.keyword name)))

/-- Reads a list of commands and the keyword behind it. -/
def body (lists : ListReader) (last : String) : Reading Command := do
  match ← lists .body with
  | (some c, _) =>
    expect lists last
    return c
  | (none, _) => fail (.unexpected (← next lists true) (some (.keyword last)))

def branches (lists : ListReader) : Nat → Reading Command
  | 0 => fail .tooDeep
  | fuel + 1 => do
    let condition ← body lists "then"
    match ← lists .body with
    | (none, _) => fail (.unexpected (← next lists true) (some (.keyword "fi")))
    | (some consequence, _) =>
      let t ← next lists true
      if t.isKeyword "elif" then
        return .branch condition consequence (some (← branches lists fuel))
      else if t.isKeyword "else" then
        return .branch condition consequence (some (← body lists "fi"))
      else if t.isKeyword "fi" then return .branch condition consequence none
      else fail (.unexpected t (some (.keyword "fi")))

/-- Reads words up to the end of a line or a semicolon. -/
def names (lists : ListReader) : Nat → Reading (List Word)
  | 0 => fail .tooDeep
  | fuel + 1 => do
    match ← next lists false with
    | .word w => return w :: (← names lists fuel)
    | .newline => endLine lists; return []
    | .semicolon => return []
    | t => fail (.unexpected t none)

/-- Reads a loop over words behind its keyword. -/
def eachLoop (lists : ListReader) (line : Nat) : Reading Command := do
  match ← next lists false with
  | .word w =>
    match w.plain? with
    | none => fail .badLoopName
    | some name =>
      if !isName name then fail .badLoopName
      else
        let t ← nextOverBreaks lists
        let words ←
          if t.isKeyword "in" then names lists (← size)
          else
            match t with
            | .semicolon => pure ()
            | t => putBack t
            pure [[.parameter ['@'] .value true]]
        let t ← nextOverBreaks lists
        if t.isKeyword "do" then return .each line name words (← body lists "done")
        else fail (.unexpected t (some (.keyword "do")))
  | _ => fail .badLoopName

def patternWord (t : Token) : Reading Word :=
  match t with
  | .word w => return w
  | .keyword name => return [.text name.toList false]
  | t => fail (.unexpected t none)

/-- Reads the patterns of a case behind the first one. -/
def patternsBehind (lists : ListReader) : Nat → Reading (List Word)
  | 0 => fail .tooDeep
  | fuel + 1 => do
    match ← next lists false with
    | .pipe =>
      let w ← patternWord (← next lists false)
      return w :: (← patternsBehind lists fuel)
    | .closing => return []
    | t => fail (.unexpected t (some .closing))

def cases (lists : ListReader) : Nat → Reading (List Case)
  | 0 => fail .tooDeep
  | fuel + 1 => do
    let t ← nextOverBreaks lists
    if t.isKeyword "esac" then return []
    else
      let first ←
        match t with
        | .opening => patternWord (← next lists false)
        | t => patternWord t
      let patterns ← patternsBehind lists (← size)
      let (c, _) ← lists .optional
      let t ← nextOverBreaks lists
      if t.isKeyword "esac" then return [.mk (first :: patterns) c]
      else
        match t with
        | .caseEnd => return .mk (first :: patterns) c :: (← cases lists fuel)
        | t => fail (.unexpected t (some .caseEnd))

def choice (lists : ListReader) (line : Nat) : Reading Command := do
  match ← next lists false with
  | .word subject =>
    let t ← nextOverBreaks lists
    if t.isKeyword "in" then return .choice line subject (← cases lists (← size))
    else fail (.unexpected t (some (.keyword "in")))
  | t => fail (.unexpected t (some (.word [])))

def redirect (lists : ListReader) (sign : RedirectSign) : Reading Redirect := do
  let here := if sign matches .document .. then Surroundings.delimiter else .bare
  match ← token (inWords lists) false false here (← size) with
  | .word w =>
    match sign with
    | .opened file way => return .opened file way w
    | .duplicate file => return .duplicate file w
    | .document file withoutTabs =>
      let number := (← get).fresh
      let delimiter := w.flatMap fun piece =>
        match piece with
        | .text cs _ => cs
        | _ => []
      let a : Announced := ⟨number, delimiter, w.plain?.isNone, withoutTabs⟩
      modify fun s => { s with announced := s.announced ++ [a], fresh := number + 1 }
      return .document file number
  | t => fail (.unexpected t none)

def redirects (lists : ListReader) : Nat → Reading (List Redirect)
  | 0 => fail .tooDeep
  | fuel + 1 => do
    match ← next lists true with
    | .redirect sign =>
      let r ← redirect lists sign
      return r :: (← redirects lists fuel)
    | t =>
      putBack t
      return []

mutual

/-- Reads one command, which starts with a token. -/
def command (lists : ListReader) (line : Nat) (t : Token) : Nat → Reading Command
  | 0 => fail .tooDeep
  | fuel + 1 => do
    let grouped := fun (c : Command) => do
      let rs ← redirects lists (← size)
      return if rs.isEmpty then c else Command.group line c rs
    match t with
    | .keyword "if" => grouped (← branches lists (← size))
    | .keyword "while" => grouped (.loop true (← body lists "do") (← body lists "done"))
    | .keyword "until" => grouped (.loop false (← body lists "do") (← body lists "done"))
    | .keyword "for" => grouped (← eachLoop lists line)
    | .keyword "case" => grouped (← choice lists line)
    | .keyword "\x7b" => grouped (← body lists "\x7d")
    | .opening =>
      match ← lists .body with
      | (some c, _) =>
        match ← next lists false with
        | .closing => return .isolated line c (← redirects lists (← size))
        | t => fail (.unexpected t (some .closing))
      | (none, _) => fail (.unexpected (← next lists true) (some .closing))
    | .word _ | .redirect _ =>
      putBack t
      simple lists (← get).line [] [] [] fuel
    | t => fail (.unexpected t none)

/-- Reads a simple command behind the parts of it that were read, latest first, or the definition of a
function. -/
def simple (lists : ListReader) (line : Nat) (assignments : List (List Char × Word))
    (words : List Word) (rs : List Redirect) : Nat → Reading Command
  | 0 => fail .tooDeep
  | fuel + 1 => do
    match ← next lists false with
    | .word w =>
      match w.assignment? with
      | some a =>
        if words.isEmpty then simple lists line (a :: assignments) words rs fuel
        else simple lists line assignments (w :: words) rs fuel
      | none => simple lists line assignments (w :: words) rs fuel
    | .redirect sign =>
      let r ← redirect lists sign
      simple lists line assignments words (r :: rs) fuel
    | .opening =>
      match assignments, words, rs with
      | [], [w], [] =>
        match ← next lists false with
        | .closing =>
          match w.plain? with
          | none => fail .badFunctionName
          | some name =>
            if !isName name || specialCommands.contains (String.ofList name) then
              fail .badFunctionName
            else
              let line := (← get).line
              return .define name (← command lists line (← nextOverBreaks lists) fuel)
        | t => fail (.unexpected t (some .closing))
      | _, _, _ =>
        putBack .opening
        return .simple line assignments.reverse words.reverse rs.reverse
    | t =>
      putBack t
      return .simple line assignments.reverse words.reverse rs.reverse

end

/-- Reads the commands that read what those before write. -/
def stagesBehind (lists : ListReader) : Nat → Reading (List Command)
  | 0 => fail .tooDeep
  | fuel + 1 => do
    match ← next lists false with
    | .pipe =>
      let line := (← get).line
      let stage ← command lists line (← nextOverBreaks lists) (← size)
      return stage :: (← stagesBehind lists fuel)
    | t =>
      putBack t
      return []

/-- Reads commands of which each reads what the one before writes, the first one of which starts with
a token. -/
def pipeline (lists : ListReader) (first : Token) : Reading Command := do
  let negated := first.isKeyword "!"
  let line := (← get).line
  let t ← if negated then next lists true else pure first
  let first ← command lists line t (2 * (← size) + 2)
  let stages ← stagesBehind lists (← size)
  let c := if stages.isEmpty then first else .pipe (first :: stages)
  return if negated then .negated c else c

/-- Reads on behind commands of which each depends on the success of those before. -/
def chainBehind (lists : ListReader) (first : Command) : Nat → Reading Command
  | 0 => fail .tooDeep
  | fuel + 1 => do
    match ← next lists false with
    | .both => chainBehind lists (.both first (← pipeline lists (← nextOverBreaks lists))) fuel
    | .either => chainBehind lists (.either first (← pipeline lists (← nextOverBreaks lists))) fuel
    | t =>
      putBack t
      return first

/-- Reads commands of a list behind those that were read, and whether the text ends with them. -/
def listBehind (lists : ListReader) (kind : ListKind) (first : Bool) (done : Option Command) :
    Nat → Reading (Option Command × Bool)
  | 0 => fail .tooDeep
  | fuel + 1 => do
    let isLine := kind == .line
    match ← token (inWords lists) (!isLine) true .bare (← size) with
    | .newline =>
      endLine lists
      return (done, false)
    | .ending =>
      endLine lists
      putBack .ending
      return (done, true)
    | t =>
      if !isLine && (kind == .optional || !first) && t.endsList then
        putBack t
        return (done, false)
      else
        let c ← chainBehind lists (← pipeline lists t) (← size)
        let t ← next lists false
        let c := if t matches .background then .background c else c
        let done := some (Command.behind done c)
        match t with
        | .ending =>
          endLine lists
          putBack .ending
          return (done, true)
        | .newline =>
          putBack t
          listBehind lists kind false done fuel
        | .background | .semicolon => listBehind lists kind false done fuel
        | t =>
          if isLine then fail (.unexpected t none)
          else
            putBack t
            return (done, false)

/-- Reads lists of commands that are nested up to some depth. -/
def list : Nat → ListReader
  | 0 => fun _ => fail .tooDeep
  | depth + 1 => fun kind => do listBehind (list depth) kind true none (2 * (← size) + 2)

end Reader

/-- Reads the next line of a script with all that belongs to its commands: the command that it is, if
it has one, whether the text ends with it, and what follows. -/
def Source.next (s : Source) : Except SyntaxFault (Option Command × Bool × Source) := do
  let ((c, ends), after) ← (Reader.list (s.rest.length + 2) .line).run s
  return (c, ends, after)

end DriverValidation.Shell
