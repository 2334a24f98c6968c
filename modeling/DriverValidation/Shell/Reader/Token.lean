import DriverValidation.Shell.Reader.Word

/-!
Reading tokens: operators, redirections, words and keywords. Behind the end of a line stand the
documents that were announced on it.
-/

namespace DriverValidation.Shell.Reader

open Reading

def skipBlanks : Nat → Reading Unit
  | 0 => fail .tooDeep
  | fuel + 1 => do
    match ← peek with
    | some ' ' | some '\t' =>
      advance
      skipBlanks fuel
    | some '#' =>
      modify fun s => { s with rest := s.rest.dropWhile (· != '\n') }
      skipBlanks fuel
    | _ => return ()

/-- Reads the sign of a redirection, before which the number of a file may stand. -/
def redirectSign (file : Option Nat) : Reading RedirectSign := do
  if ← accept '>' then
    let file := file.getD 1
    if ← accept '>' then return .opened file .append
    else if ← accept '|' then return .opened file .write
    else if ← accept '&' then return .duplicate file
    else return .opened file .write
  else
    advance
    let file := file.getD 0
    if ← accept '<' then return .document file (← accept '-')
    else if ← accept '&' then return .duplicate file
    else if ← accept '>' then return .opened file .readAndWrite
    else return .opened file .read

def operator? : Reading (Option Token) := do
  match ← peek with
  | none => return some .ending
  | some '\n' =>
    advance
    return some .newline
  | some '&' =>
    advance
    return some (if ← accept '&' then .both else .background)
  | some '|' =>
    advance
    return some (if ← accept '|' then .either else .pipe)
  | some ';' =>
    advance
    return some (if ← accept ';' then .caseEnd else .semicolon)
  | some '(' =>
    advance
    return some .opening
  | some ')' =>
    advance
    return some .closing
  | _ => return none

def putBack (t : Token) : Reading Unit := modify fun s => { s with looked := some t }

/-- Reads a word or the sign of a redirection. -/
def word (commands : CommandReader) (here : Surroundings) : Reading Token := do
  let (w, quoted) ← pieces commands here (4 * (← size) + 4)
  match ← peek with
  | some c =>
    if (c == '<' || c == '>') && !quoted then
      match w with
      | [] => return .redirect (← redirectSign none)
      | [.text [d] false] =>
        if d.isDigit then return .redirect (← redirectSign (some (d.toNat - '0'.toNat)))
        else return .word w
      | _ => return .word w
    else return .word w
  | none => return .word w

def documents (commands : CommandReader) : Nat → Reading Unit
  | 0 => fail .tooDeep
  | fuel + 1 => do
    let s ← get
    match s.announced with
    | [] => return ()
    | a :: announced =>
      let (text, rest) := takeDocument a false (s.rest.length + 1) s.rest
      let line := s.line + (s.rest.take (s.rest.length - rest.length)).count '\n'
      if a.literal then
        let documents := s.documents ++ [(a.number, [.text text true])]
        set { s with announced, rest, line, documents }
      else
        set { s with rest := text, announced := [] }
        let (w, _) ← pieces commands .document (4 * text.length + 8)
        modify fun after =>
          { after with announced, rest, line, documents := after.documents ++ [(a.number, w)] }
      documents commands fuel

/-- Reads a token. Line breaks may count or not, and words of the grammar may or not. -/
def token (commands : CommandReader) (overBreaks keywords : Bool) (here : Surroundings) :
    Nat → Reading Token
  | 0 => fail .tooDeep
  | fuel + 1 => do
    let s ← get
    set { s with looked := none }
    let t ←
      match s.looked with
      | some t => pure t
      | none =>
        skipBlanks (← size)
        match ← operator? with
        | some t => pure t
        | none => word commands here
    match t with
    | .newline =>
      if overBreaks then
        documents commands ((← get).announced.length + 1)
        token commands overBreaks keywords here fuel
      else return t
    | .word w =>
      match w.plain? with
      | some cs =>
        if keywords && Token.keywords.contains (String.ofList cs) then
          return .keyword (String.ofList cs)
        else return t
      | none => return t
    | t => return t

end DriverValidation.Shell.Reader
