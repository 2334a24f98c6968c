import DriverValidation.Shell.Utility.Options
import DriverValidation.Shell.Utility.Text

/-!
The programs that read, make and remove files, and the one that lets time pass.
-/

namespace DriverValidation.Shell.Utility

/-- The sentence that points to the help of a program. -/
def hint (name : String) : String := "\nTry '" ++ name ++ " --help' for more information."

/-- A program with options that are letters; complaints about them point to its help. -/
def withLetters (name known : String) (run : GivenOptions → Machine → Machine) : Action :=
  fun arguments m =>
    match (KnownOptions.letters known).given arguments with
    | .error e => complaint .program name m (e ++ hint name) 1
    | .ok given => run given m

/-- Bytes with a sign before each line feed. -/
def markEnds (bytes : List UInt8) : List UInt8 :=
  bytes.flatMap fun b => if b == 10 then [36, 10] else [b]

/-- Bytes with numbers before their lines, counted from `n` on. -/
def numberLines (fresh : Bool) (n : Nat) : List UInt8 → List UInt8
  | [] => []
  | b :: bytes =>
    let digits := toString n
    let front :=
      if fresh then
        Text.Utf8.encode (String.ofList (List.replicate (6 - digits.length) ' ') ++ digits ++ "\t")
      else []
    if b == 10 then front ++ b :: numberLines true (n + 1) bytes
    else front ++ b :: numberLines false n bytes

/-- Writes the contents of files behind those that were written before. -/
def catFiles (given : GivenOptions) (before : List UInt8) : List String → Machine → Machine
  | [], m => m
  | path :: paths, m =>
    let (contents, m) : Except String (List UInt8) × Machine :=
      if path != "-" then ((m.tree.read (m.full path)).mapError wording, m)
      else
        match m.input? with
        | some bytes => (.ok bytes, m.withInput [])
        | none => (.error badFile, m)
    match contents with
    | .ok bytes =>
      let ended := before.getLast?.all (· == 10)
      let shown := if given.has 'E' then markEnds bytes else bytes
      let shown := if given.has 'n' then numberLines ended (1 + before.count 10) shown else shown
      catFiles given (before ++ bytes) paths (m.write shown)
    | .error e =>
      catFiles given before paths (complaint .program "cat" m (path ++ ": " ++ e) 1)

def cat : Action := withLetters "cat" "nEu" fun given m =>
  let operands := if given.operands.isEmpty then ["-"] else given.operands
  if (m.files.lookup 1).isNone then
    complaint .program "cat" m ("standard output: " ++ badFile) 1
  else
    let m' := catFiles given [] operands (m.withStatus 0)
    if operands.contains "-" && m.input?.isNone then
      complaint .program "cat" m' ("closing standard input: " ++ badFile) 1
    else m'

def mkdir : Action := withLetters "mkdir" "pv" fun given m =>
  if given.operands.isEmpty then
    complaint .program "mkdir" m ("missing operand" ++ hint "mkdir") 1
  else
    given.operands.foldl (fun m path =>
      let (result, tree) :=
        if given.has 'p' then m.tree.makePath (m.full path)
        else
          match m.tree.makeDirectory (.ofText (m.full path)) with
          | .ok tree => (.ok (), tree)
          | .error e => (.error e, m.tree)
      let m := { m with tree }
      match result with
      | .ok () => m
      | .error e =>
        complaint .program "mkdir" m
          ("cannot create directory '" ++ path ++ "': " ++ wording e) 1) (m.withStatus 0)

def rm : Action := withLetters "rm" "rRfvid" fun given m =>
  let deep := given.has 'r' || given.has 'R'
  let force := given.has 'f'
  if given.operands.isEmpty && !force then
    complaint .program "rm" m ("missing operand" ++ hint "rm") 1
  else
    given.operands.foldl (fun m path =>
      let fail := fun (e : IoError) =>
        complaint .program "rm" m ("cannot remove '" ++ path ++ "': " ++ wording e) 1
      match m.tree.locate (.ofText (m.full path)) with
      | .ok (place, some (.file _)) => { m with tree := m.tree.remove place }
      | .ok (place, some .directory) =>
        if deep then { m with tree := m.tree.removeBelow place } else fail .isADirectory
      | .ok (_, none) | .error .notFound => if force then m else fail .notFound
      | .error e => fail e) (m.withStatus 0)

def touch : Action := withLetters "touch" "acm" fun given m =>
  if given.operands.isEmpty then
    complaint .program "touch" m ("missing file operand" ++ hint "touch") 1
  else
    given.operands.foldl (fun m path =>
      if (m.entry? path).isSome || given.has 'c' then m
      else
        match m.tree.writeFile (m.full path) [] with
        | .ok tree => { m with tree }
        | .error e =>
          complaint .program "touch" m ("cannot touch '" ++ path ++ "': " ++ wording e) 1)
      (m.withStatus 0)

/-- The nanoseconds that an interval takes. -/
def interval? (s : String) : Option Nat :=
  let cs := s.toList
  let (number, scale) :=
    match cs.getLast? with
    | some 's' => (cs.dropLast, 1)
    | some 'm' => (cs.dropLast, 60)
    | some 'h' => (cs.dropLast, 3600)
    | some 'd' => (cs.dropLast, 86400)
    | _ => (cs, 1)
  let whole := number.takeWhile Char.isDigit
  let fraction? :=
    match number.dropWhile Char.isDigit with
    | '.' :: rest => some rest
    | [] => some []
    | _ => none
  match fraction? with
  | none => none
  | some fraction =>
    if !fraction.all Char.isDigit || (whole.isEmpty && fraction.isEmpty) then none
    else
      let n := (whole ++ fraction).foldl (fun n d => n * 10 + (d.toNat - '0'.toNat)) 0
      some (n * scale * 1000000000 / Nat.pow 10 fraction.length)

def sleep : Action := withLetters "sleep" "" fun given m =>
  if given.operands.isEmpty then
    complaint .program "sleep" m ("missing operand" ++ hint "sleep") 1
  else
    match given.operands.filter (interval? · == none) with
    | [] =>
      let interval := (given.operands.filterMap interval?).foldl (· + ·) 0
      { m with elapsed := m.elapsed + interval, status := 0 }
    | wrong =>
      let complaints := wrong.map fun s => "sleep: invalid time interval " ++ inQuotes s
      m.complain (String.intercalate "\n" complaints ++ hint "sleep") 1

end DriverValidation.Shell.Utility
