import DriverValidation.Shell.Token

/-!
A script that is being read: the text that follows, and the documents that have been announced but
stand only behind the end of the line.
-/

namespace DriverValidation.Shell

/-- A document that starts behind the end of the line: its number, the line that ends it, whether
values are put in, and whether tabs at the start of its lines count. -/
structure Announced where
  number : Nat
  delimiter : List Char
  literal : Bool
  withoutTabs : Bool
  deriving Repr, DecidableEq

/-- The state of reading: the text that follows, its line, the documents that are announced and those
that were read, the number of the next one, and a token that was looked at. -/
structure Source where
  rest : List Char
  line : Nat
  announced : List Announced
  documents : List (Nat × Word)
  fresh : Nat
  looked : Option Token

/-- Where and why a script is malformed. -/
structure SyntaxFault where
  line : Nat
  error : SyntaxError

abbrev Reading := StateT Source (Except SyntaxFault)

namespace Source

/-- A script before its first line is read, whose documents are numbered from `fresh` on. -/
def start (cs : List Char) (line fresh : Nat) : Source := ⟨cs, line, [], [], fresh, none⟩

/-- The line and the text behind backslashes that join lines. -/
def joined (line : Nat) : List Char → Nat × List Char
  | '\\' :: '\n' :: cs => joined (line + 1) cs
  | cs => (line, cs)

end Source

namespace Reading

def fail {α : Type} (e : SyntaxError) : Reading α := do
  throw ⟨(← get).line, e⟩

/-- The next character, after lines were joined. -/
def peek : Reading (Option Char) := do
  let s ← get
  let (line, rest) := Source.joined s.line s.rest
  set { s with line, rest }
  return rest.head?

def advance : Reading Unit := do
  let s ← get
  match s.rest with
  | [] => return ()
  | c :: rest => set { s with rest, line := if c == '\n' then s.line + 1 else s.line }

def accept (c : Char) : Reading Bool := do
  if (← peek) == some c then
    advance
    return true
  else return false

/-- The next characters that pass a test, behind which reading goes on. -/
def span (p : Char → Bool) : Nat → Reading (List Char)
  | 0 => fail .tooDeep
  | fuel + 1 => do
    match ← peek with
    | some c =>
      if p c then
        advance
        return c :: (← span p fuel)
      else return []
    | none => return []

/-- A bound for the number of characters, tokens and lines that follow. -/
def size : Reading Nat := do return (← get).rest.length + 4

/-- The text up to a character, behind which reading goes on. Backslashes join no lines in it. -/
def upTo (last : Char) (e : SyntaxError) : Reading (List Char) := do
  let s ← get
  let inside := s.rest.takeWhile (· != last)
  let line := s.line + inside.count '\n'
  match s.rest.dropWhile (· != last) with
  | _ :: rest =>
    set { s with rest, line }
    return inside
  | [] =>
    set { s with rest := [], line }
    fail e

end Reading

/-- The lines of a document up to the one that ends it, and the text behind that. A line that is joined
to the one before it does not end the document. -/
def takeDocument (a : Announced) (afterJoin : Bool) : Nat → List Char → List Char × List Char
  | 0, cs => ([], cs)
  | _ + 1, [] => ([], [])
  | fuel + 1, cs =>
    let raw := cs.takeWhile (· != '\n')
    let rest := cs.dropWhile (· != '\n')
    let line := if a.withoutTabs then raw.dropWhile (· == '\t') else raw
    if line == a.delimiter && !afterJoin then ([], rest.drop 1)
    else
      let joins := !a.literal && (line.reverse.takeWhile (· == '\\')).length % 2 == 1
      match rest with
      | [] => (line, [])
      | _ :: rest =>
        let (more, rest) := takeDocument a joins fuel rest
        (line ++ '\n' :: more, rest)

end DriverValidation.Shell
