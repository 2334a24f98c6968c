import DriverValidation.Text.Code
import DriverValidation.Yaml.Error
import DriverValidation.Yaml.Scalar.Gap

/-!
Quoted scalars. Between single quotes only the quote itself is written specially, twice; between
double quotes a backslash starts an escape, which may also stand for a character by its number or
hide the end of a line. Lines are folded in both.
-/

namespace DriverValidation.Yaml.Quoted

/-- What has been read of a quoted scalar: its text, last character first, and the separators after
it. -/
structure Partial where
  text : List Char
  gap : Gap
  deriving Repr, DecidableEq

def Partial.empty : Partial := ⟨[], .none⟩

def Partial.push (p : Partial) (c : Char) : Partial :=
  ⟨c :: (p.gap.folded ++ p.text), .none⟩

def Partial.separate (p : Partial) (c : Char) : Partial :=
  if isBreak c then { p with gap := p.gap.addBreak c } else { p with gap := p.gap.addBlank c }

/-- The line ends here with a backslash. -/
def Partial.hideBreak (p : Partial) : Partial := ⟨p.gap.folded ++ p.text, .escaped⟩

/-- The text once the closing quote is met. -/
def Partial.close (p : Partial) : List Char := (p.gap.folded ++ p.text).reverse

/-- Reads on to the closing single quote, of which `mark` is the place before the text. -/
def readSingle (done : Partial) (mark : Mark) : List Char → Except Error (List Char × Cursor)
  | [] => .error (.malformed .unfinishedQuote mark)
  | '\'' :: '\'' :: rest =>
    readSingle (done.push '\'') ((mark.after '\'').after '\'') rest
  | '\'' :: rest => .ok (done.close, ⟨mark.after '\'', rest⟩)
  | c :: rest =>
    if isSeparator c then readSingle (done.separate c) (mark.after c) rest
    else if mark.column == 0 && atDocumentMark (c :: rest) then
      .error (.malformed .documentMarkInQuote mark)
    else readSingle (done.push c) (mark.after c) rest

/-- What an escape of one character stands for. -/
def escape? : Char → Option Char
  | '0' => some '\x00'
  | 'a' => some '\x07'
  | 'b' => some '\x08'
  | 't' | '\t' => some '\t'
  | 'n' => some '\n'
  | 'v' => some '\x0B'
  | 'f' => some '\x0C'
  | 'r' => some '\r'
  | 'e' => some '\x1B'
  | ' ' => some ' '
  | '"' => some '"'
  | '/' => some '/'
  | '\\' => some '\\'
  | 'N' => some '\u0085'
  | '_' => some '\u00A0'
  | 'L' => some '\u2028'
  | 'P' => some '\u2029'
  | _ => none

/-- The number of hexadecimal digits that an escape takes. -/
def digitsOf? : Char → Option Nat
  | 'x' => some 2
  | 'u' => some 4
  | 'U' => some 8
  | _ => none

/-- What the next character is to be read as: text, the character after a backslash, or one of the
digits of a character's number, of which some are still missing. -/
inductive Mode where
  | text
  | escape
  | digits (missing : Nat) (number : Nat)
  deriving Repr, DecidableEq

/-- Reads on to the closing double quote. -/
def readDouble (mode : Mode) (done : Partial) (mark : Mark) :
    List Char → Except Error (List Char × Cursor)
  | [] => .error (.malformed .unfinishedQuote mark)
  | c :: rest =>
    match mode with
    | .escape =>
      if isBreak c then readDouble .text done.hideBreak (mark.after c) rest
      else
        match escape? c, digitsOf? c with
        | some e, _ => readDouble .text (done.push e) (mark.after c) rest
        | none, some n => readDouble (.digits n 0) done (mark.after c) rest
        | none, none => .error (.malformed .unknownEscape mark)
    | .digits missing number =>
      match Text.hexDigit? c with
      | none => .error (.malformed .notHexadecimal mark)
      | some d =>
        let number := number * 16 + d
        if missing ≤ 1 then
          match Text.character? number with
          | some e => readDouble .text (done.push e) (mark.after c) rest
          | none => .error (.malformed .noSuchCharacter mark)
        else readDouble (.digits (missing - 1) number) done (mark.after c) rest
    | .text =>
      if isSeparator c then readDouble .text (done.separate c) (mark.after c) rest
      else if mark.column == 0 && atDocumentMark (c :: rest) then
        .error (.malformed .documentMarkInQuote mark)
      else if c == '"' then .ok (done.close, ⟨mark.after c, rest⟩)
      else if c == '\\' then readDouble .escape done (mark.after c) rest
      else readDouble .text (done.push c) (mark.after c) rest

/-- Reads the quoted scalar whose opening quote stands at a place: its text and the place after its
closing quote. -/
def read (single : Bool) (c : Cursor) : Except Error (List Char × Cursor) :=
  let inside := c.skip
  if single then readSingle .empty inside.mark inside.rest
  else readDouble .text .empty inside.mark inside.rest

end DriverValidation.Yaml.Quoted
