import DriverValidation.Shell.Utility.Expression

/-!
Looking for lines that one of some patterns fits.
-/

namespace DriverValidation.Shell.Utility

/-- What a line is searched for: texts as they are, or patterns. -/
inductive Sought where
  | text (cs : List Char)
  | pattern (p : PatternPart)

/-- A search: what is sought, in which lines, and what is told about them. -/
structure Search where
  sought : List Sought
  given : GivenOptions
  most : Option Nat
  named : Bool

namespace Search

def options : KnownOptions where
  argument? := fun c =>
    if "qviyFEGcsnxwolLhHa".toList.contains c then some false
    else if "em".toList.contains c then some true
    else none
  long := [("quiet", 'q'), ("silent", 'q'), ("invert-match", 'v'), ("ignore-case", 'i'),
    ("fixed-strings", 'F'), ("extended-regexp", 'E'), ("basic-regexp", 'G'), ("count", 'c'),
    ("no-messages", 's'), ("line-number", 'n'), ("line-regexp", 'x'), ("word-regexp", 'w'),
    ("only-matching", 'o'), ("files-with-matches", 'l'), ("files-without-match", 'L'),
    ("no-filename", 'h'), ("with-filename", 'H'), ("text", 'a'), ("regexp", 'e'),
    ("max-count", 'm')]

def linesOf (cs : List Char) : List (List Char) :=
  let lines := cs.splitOn '\n'
  if lines.getLast? == some [] then lines.dropLast else lines

/-- A text in which upper and lower case are the same, where they do not count. -/
def fold (given : GivenOptions) (cs : List Char) : List Char :=
  if given.has 'i' || given.has 'y' then cs.map Char.toLower else cs

def soughtBy (given : GivenOptions) (pattern : String) : Except PatternError (List Sought) :=
  let lines := (fold given pattern.toList).splitOn '\n'
  let letters := given.options.map (·.1)
  match (letters.filter ['F', 'E', 'G'].contains).getLast? with
  | some 'F' => .ok (lines.map .text)
  | kind =>
    let style := if kind == some 'E' then PatternStyle.extended else .basic
    lines.mapM fun cs => (Pattern.ofChars style cs).map fun p => .pattern p.1

/-- The places up to which what is sought fits a line from a place on. -/
def endsFrom (s : Search) (text : Array Char) (place : Nat) : List Nat :=
  let ends := s.sought.flatMap fun sought =>
    match sought with
    | .text cs => if cs.isPrefixOf (text.toList.drop place) then [place + cs.length] else []
    | .pattern p => (Pattern.fitsAt p text place).map (·.place)
  ends.filter fun last =>
    let whole := place == 0 && last == text.size
    let word := !(place != 0 && (text[place - 1]?).any Pattern.isWordChar) &&
      !(text[last]?).any Pattern.isWordChar
    (!s.given.has 'x' || whole) && (!s.given.has 'w' || word)

/-- The first place from which what is sought fits a line, and the farthest one up to which it does. -/
def findFrom? (s : Search) (line : Array Char) (start : Nat) : Option (Nat × Nat) :=
  ((List.range (line.size + 1)).drop start).findSome? fun place =>
    match endsFrom s line place with
    | [] => none
    | e :: es => some (place, es.foldl max e)

def selects (s : Search) (line : List Char) : Bool :=
  (findFrom? s (fold s.given line).toArray 0).isSome != s.given.has 'v'

/-- The parts of a line that what is sought fits, from a place on. -/
def parts (s : Search) (line : List Char) : Nat → Nat → List (List Char)
  | 0, _ => []
  | fuel + 1, start =>
    match findFrom? s (fold s.given line).toArray start with
    | none => []
    | some (first, last) =>
      if first == last then parts s line fuel (first + 1)
      else (line.drop first).take (last - first) :: parts s line fuel last

/-- What is told about a text: whether a line of it is selected, and the lines that are written. -/
def report (s : Search) (label : String) (bytes : List UInt8) : Bool × List String :=
  let lines := linesOf (Text.Utf8.lenient bytes).toList
  let numbered := (List.range lines.length).zip lines
  let selected := numbered.filter fun l => selects s l.2
  let selected := selected.take (s.most.getD selected.length)
  let front := if s.named then label ++ ":" else ""
  let given := s.given
  let told :=
    if given.has 'q' then []
    else if given.has 'l' then if selected.isEmpty then [] else [label]
    else if given.has 'L' then if selected.isEmpty then [label] else []
    else if given.has 'c' then [front ++ toString selected.length]
    else
      selected.flatMap fun (n, line) =>
        let front := front ++ if given.has 'n' then toString (n + 1) ++ ":" else ""
        if given.has 'o' then
          if given.has 'v' then []
          else (parts s line (line.length + 1) 0).map fun cs => front ++ String.ofList cs
        else [front ++ String.ofList line]
  (!selected.isEmpty, told)

/-- What searching files has come to: whether a line was selected, whether a file could not be read, and
the lines that are written. -/
structure Result where
  found : Bool
  failed : Bool
  told : List String
  deriving Repr, DecidableEq

def files (s : Search) (done : Result) : List String → Machine → Result × Machine
  | [], m => (done, m)
  | path :: paths, m =>
    let (contents, m) : Except String (List UInt8) × Machine :=
      if path != "-" then ((m.tree.read (m.full path)).mapError wording, m)
      else
        match m.input? with
        | some bytes => (.ok bytes, m.withInput [])
        | none => (.error badFile, m)
    let label := if path == "-" then "(standard input)" else path
    match contents with
    | .ok bytes =>
      let (found, told) := s.report label bytes
      let done := { done with found := done.found || found, told := done.told ++ told }
      if found && s.given.has 'q' then ({ done with failed := false }, m) else files s done paths m
    | .error e =>
      let m := if s.given.has 's' then m else complaint .program "grep" m (label ++ ": " ++ e) 2
      files s { done with failed := true } paths m

def usage : String :=
  "Usage: grep [OPTION]... PATTERNS [FILE]...\nTry 'grep --help' for more information."

end Search

/-- Looks for lines that one of some patterns fits. -/
def grep : Action := fun arguments m =>
  match Search.options.given arguments with
  | .error e => complaint .program "grep" m (e ++ "\n" ++ Search.usage) 2
  | .ok given =>
    let patterns := (given.options.filter (·.1 == 'e')).map (·.2)
    let (pattern?, paths) :=
      if patterns.isEmpty then (given.operands.head?, given.operands.tail)
      else (some (String.intercalate "\n" patterns), given.operands)
    let limit := ((given.options.filter (·.1 == 'm')).getLast?).map (·.2)
    match pattern? with
    | none => m.complain Search.usage 2
    | some pattern =>
      if limit.any (Expression.integer? · == none) then
        complaint .program "grep" m "invalid max count" 2
      else
        match Search.soughtBy given pattern with
        | .error e => complaint .program "grep" m e.message 2
        | .ok sought =>
          let most := (limit.bind Expression.integer?).bind fun n =>
            if n < 0 then none else some n.toNat
          let named := (1 < paths.length || given.has 'H') && !given.has 'h'
          let (result, m) :=
            Search.files ⟨sought, given, most, named⟩ ⟨false, false, []⟩
              (if paths.isEmpty then ["-"] else paths) m
          let status := if result.failed then 2 else if result.found then 0 else 1
          emit "grep" 2 (m.withStatus status)
            (Text.Utf8.encode (String.join (result.told.map (· ++ "\n"))))

end DriverValidation.Shell.Utility
