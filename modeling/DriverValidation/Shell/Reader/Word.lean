import DriverValidation.Shell.Source

/-!
Reading words. The commands that stand in them are read as the reader of words is told.
-/

namespace DriverValidation.Shell

/-- Where the pieces of a word stand: outside of quotes, in the word that ends a document, between
double quotes, in a document, or between braces, there perhaps inside of double quotes or a
document. -/
inductive Surroundings where
  | bare
  | delimiter
  | quotes
  | document
  | braces (quoted inDocument : Bool)
  deriving Repr, DecidableEq

namespace Surroundings

/-- What stands here is not split into words. -/
def isQuoted : Surroundings → Bool
  | bare | delimiter => false
  | quotes | document => true
  | braces quoted _ => quoted

/-- The characters whose meaning a backslash takes here, standing for itself before others; none where
it does so before all characters. -/
def escapable? : Surroundings → Option (List Char)
  | bare | delimiter | braces false _ => none
  | quotes => some ['\\', '\u0060', '$', '"']
  | document => some ['\\', '\u0060', '$']
  | braces true _ => some ['\\', '\u0060', '$', '"', '\x7d']

/-- What is missing where the text ends here; nothing where it may. -/
def missing? : Surroundings → Option SyntaxError
  | bare | delimiter | document => none
  | quotes => some .openQuote
  | braces quoted inDocument => some (if quoted && !inDocument then .openQuote else .openBrace)

def inBraces : Surroundings → Surroundings
  | bare | delimiter => .braces false false
  | quotes => .braces true false
  | document => .braces true true
  | braces quoted inDocument => .braces quoted inDocument

/-- The character ends a word here, and whether it belongs to it. -/
def ends? (here : Surroundings) (c : Char) : Option Bool :=
  match here with
  | bare | delimiter =>
    if [' ', '\t', '\n', ';', '&', '|', '<', '>', '(', ')'].contains c then some false else none
  | quotes => if c == '"' then some true else none
  | document => none
  | braces .. => if c == '\x7d' then some true else none

end Surroundings

/-- How the commands in a word are read: those up to a closing bracket, and those of a text. -/
structure CommandReader where
  bracketed : Reading (Option Command)
  ofText : List Char → Reading (Option Command)

/-- The parameters whose names are signs. -/
def isSpecial (c : Char) : Bool := ['!', '#', '$', '*', '-', '?', '@'].contains c

namespace Reader

open Reading

/-- Reads the text of a command between backquotes. -/
def backquoted (quoted : Bool) : Nat → Reading (List Char)
  | 0 => fail .tooDeep
  | fuel + 1 => do
    match ← peek with
    | none => fail .openBackquote
    | some c =>
      advance
      if c == '\u0060' then return []
      else if c == '\\' then
        match (← get).rest with
        | [] => fail .openBackquote
        | e :: _ =>
          advance
          let bare := e == '\\' || e == '\u0060' || e == '$' || (quoted && e == '"')
          let rest ← backquoted quoted fuel
          return if bare then e :: rest else c :: e :: rest
      else return c :: (← backquoted quoted fuel)

def digits : Reading (List Char) := do span Char.isDigit (← size)

def nameChars : Reading (List Char) := do span isNameChar (← size)

/-- Reads the name of a parameter between braces, and whether its length is asked for; nothing if
there is no parameter. -/
def braceName : Reading (Option (List Char × Bool)) := do
  match ← peek with
  | none => return none
  | some '\x7d' => return none
  | some c =>
    if c.isDigit then return some (← digits, false)
    else if isNameChar c then return some (← nameChars, false)
    else
      advance
      if c == '#' then
        match ← peek with
        | none => return some (['#'], false)
        | some d =>
          if d.isDigit then return some (← digits, true)
          else if isNameChar d then return some (← nameChars, true)
          else
            let before ← get
            advance
            if d != '\x7d' && (← peek) == some '\x7d' then
              return if isSpecial d then some ([d], true) else none
            else
              set before
              return some (['#'], false)
      else if isSpecial c then return some ([c], false)
      else return none

/-- The sign of what takes the place of a value. -/
def fallback? : Char → Option Fallback
  | '-' => some .substitute
  | '=' => some .assign
  | '+' => some .invert
  | '?' => some .complain
  | _ => none

mutual

/-- Reads the pieces of a word up to its end, and whether some of them are quoted. -/
def pieces (commands : CommandReader) (here : Surroundings) : Nat → Reading (Word × Bool)
  | 0 => fail .tooDeep
  | fuel + 1 => do
    let quoted := here.isQuoted
    match ← peek with
    | none =>
      match here.missing? with
      | some e => fail e
      | none => return ([], false)
    | some c =>
      match here.ends? c with
      | some true =>
        advance
        return ([], false)
      | some false => return ([], false)
      | none =>
        advance
        if c == '\\' then
          match (← get).rest with
          | [] =>
            let (w, _) ← pieces commands here fuel
            return (w.cons '\\' true, true)
          | e :: _ =>
            advance
            let (w, _) ← pieces commands here fuel
            match here.escapable? with
            | none => return (w.cons e true, true)
            | some es =>
              if es.contains e then return (w.cons e true, true)
              else return ((w.cons e true).cons '\\' true, true)
        else if c == '\'' && !quoted then
          let inside ← upTo '\'' .openQuote
          let (w, _) ← pieces commands here fuel
          return (.text inside true :: w, true)
        else if c == '"' && here != .document then
          if quoted then
            let (w, _) ← pieces commands here fuel
            return (.text [] true :: w, true)
          else
            let (inside, _) ← pieces commands .quotes fuel
            let (w, _) ← pieces commands here fuel
            return (.text [] true :: inside ++ w, true)
        else if c == '$' && here != .delimiter then
          let first ← dollar commands here fuel
          let (w, q) ← pieces commands here fuel
          return (first :: w, q)
        else if c == '\u0060' && here != .delimiter then
          let c ← commands.ofText (← backquoted quoted (← size))
          let (w, q) ← pieces commands here fuel
          return (.output c quoted :: w, q)
        else
          let (w, q) ← pieces commands here fuel
          return (w.cons c quoted, q)

/-- Reads what a dollar sign starts. -/
def dollar (commands : CommandReader) (here : Surroundings) : Nat → Reading Piece
  | 0 => fail .tooDeep
  | fuel + 1 => do
    let quoted := here.isQuoted
    match ← peek with
    | none => return .text ['$'] quoted
    | some c =>
      if c == '(' then
        advance
        if ← accept '(' then return .sum (← sum commands 0 fuel) quoted
        else return .output (← commands.bracketed) quoted
      else if c == '\x7b' then
        advance
        braces commands here fuel
      else if c.isDigit || isSpecial c then
        advance
        return .parameter [c] .value quoted
      else if isNameChar c then return .parameter (← nameChars) .value quoted
      else return .text ['$'] quoted

/-- Reads a parameter behind its opening brace. -/
def braces (commands : CommandReader) (here : Surroundings) : Nat → Reading Piece
  | 0 => fail .tooDeep
  | fuel + 1 => do
    let quoted := here.isQuoted
    let malformed : Reading Piece := do
      let (_, _) ← pieces commands here.inBraces fuel
      return .parameter [] .malformed quoted
    match ← braceName with
    | none => malformed
    | some (name, true) =>
      if ← accept '\x7d' then return .parameter name .length quoted else malformed
    | some (name, false) =>
      if ← accept '\x7d' then return .parameter name .value quoted
      else
        let evenIfEmpty ← accept ':'
        match ← peek with
        | none => malformed
        | some c =>
          match fallback? c with
          | some kind =>
            advance
            let (w, _) ← pieces commands here.inBraces fuel
            return .parameter name (.fallback evenIfEmpty kind w) quoted
          | none =>
            if !evenIfEmpty && (c == '#' || c == '%') then
              advance
              let longest ← accept c
              let (w, _) ← pieces commands (.braces false false) fuel
              return .parameter name (.cut (c == '#') longest w) quoted
            else
              let _ ← accept '\x7d'
              malformed

/-- Reads a sum up to its closing brackets, in which some brackets are open. -/
def sum (commands : CommandReader) (depth : Nat) : Nat → Reading Word
  | 0 => fail .tooDeep
  | fuel + 1 => do
    match ← peek with
    | none => fail .openSum
    | some c =>
      advance
      if c == ')' && depth == 0 then
        if ← accept ')' then return []
        else return (← sum commands 0 fuel).cons c true
      else if c == ')' then return (← sum commands (depth - 1) fuel).cons c true
      else if c == '(' then return (← sum commands (depth + 1) fuel).cons c true
      else if c == '$' then
        let first ← dollar commands .quotes fuel
        return first :: (← sum commands depth fuel)
      else if c == '\u0060' then
        let c ← commands.ofText (← backquoted true (← size))
        return .output c true :: (← sum commands depth fuel)
      else if c == '"' then sum commands depth fuel
      else return (← sum commands depth fuel).cons c true

end

end Reader

end DriverValidation.Shell
