import DriverValidation.Text.Code
import DriverValidation.Toml.Value

/-!
Texts of a configuration document: between double quotes with escapes or single quotes without, and
on one line or, between three quotes, on several. A text of several lines may end in up to two
quotes before the three that close it.
-/

namespace DriverValidation.Toml.Text

/-- How a text is written. -/
structure Quoting where
  escapes : Bool
  manyLines : Bool
  deriving Repr, DecidableEq

/-- The quote of a text. -/
def Quoting.quote (q : Quoting) : Char := if q.escapes then '"' else '\''

/-- What the next character belongs to: the text itself; a line break whose first half was met; an
escape; the digits of a character's number; white space that a backslash hides, before or after its
first line break; or a run of quotes. -/
inductive Mode where
  | text
  | lineFeed
  | escape
  | digits (missing number : Nat)
  | hidden (broken : Bool)
  | hiddenLineFeed
  | quotes (count : Nat)
  deriving Repr, DecidableEq

/-- What a character does: it leads on, it closes the text (and may stand behind it already), or it
may not stand here. The text is kept last character first. -/
inductive Step where
  | go (mode : Mode) (done : List Char)
  | close (done : List Char) (behind : Bool)
  | fail
  deriving Repr, DecidableEq

/-- The characters of a text, besides quotes and line breaks. -/
def isContent (c : Char) : Bool := c == '\t' || (0x20 ≤ c.toNat && c.toNat != 0x7F)

/-- What an escape of one character stands for. -/
def escape? : Char → Option Char
  | 'b' => some '\x08'
  | 'f' => some '\x0C'
  | 'n' => some '\n'
  | 'r' => some '\r'
  | 't' => some '\t'
  | '"' => some '"'
  | '\\' => some '\\'
  | _ => none

/-- What a character does in the text itself. -/
def textStep (q : Quoting) (done : List Char) (c : Char) : Step :=
  if c == q.quote then
    if q.manyLines then .go (.quotes 1) done else .close done false
  else if c == '\\' && q.escapes then .go .escape done
  else if q.manyLines && c == '\n' then .go .text (c :: done)
  else if q.manyLines && c == '\r' then .go .lineFeed done
  else if isContent c then .go .text (c :: done)
  else .fail

/-- What a character does. -/
def step (q : Quoting) (mode : Mode) (done : List Char) (c : Char) : Step :=
  match mode with
  | .text => textStep q done c
  | .lineFeed => if c == '\n' then .go .text (c :: done) else .fail
  | .escape =>
    match escape? c with
    | some e => .go .text (e :: done)
    | none =>
      if c == 'u' then .go (.digits 4 0) done
      else if c == 'U' then .go (.digits 8 0) done
      else if !q.manyLines then .fail
      else if c == ' ' || c == '\t' then .go (.hidden false) done
      else if c == '\n' then .go (.hidden true) done
      else if c == '\r' then .go .hiddenLineFeed done
      else .fail
  | .digits missing number =>
    match DriverValidation.Text.hexDigit? c with
    | none => .fail
    | some d =>
      if missing ≤ 1 then
        match DriverValidation.Text.character? (number * 16 + d) with
        | some e => .go .text (e :: done)
        | none => .fail
      else .go (.digits (missing - 1) (number * 16 + d)) done
  | .hidden broken =>
    if c == ' ' || c == '\t' then .go (.hidden broken) done
    else if c == '\n' then .go (.hidden true) done
    else if c == '\r' then .go .hiddenLineFeed done
    else if broken then textStep q done c
    else .fail
  | .hiddenLineFeed => if c == '\n' then .go (.hidden true) done else .fail
  | .quotes count =>
    if c == q.quote && count < 5 then .go (.quotes (count + 1)) done
    else if 3 ≤ count then .close (List.replicate (count - 3) q.quote ++ done) true
    else textStep q (List.replicate count q.quote ++ done) c

/-- Reads on to the end of a text. -/
def readFrom (q : Quoting) (mode : Mode) (done : List Char) :
    List Char → Except Error (String × List Char)
  | [] =>
    match mode with
    | .quotes count =>
      if 3 ≤ count then
        .ok (String.ofList (List.replicate (count - 3) q.quote ++ done).reverse, [])
      else .error .malformedText
    | _ => .error .malformedText
  | c :: rest =>
    match step q mode done c with
    | .go mode done => readFrom q mode done rest
    | .close done true => .ok (String.ofList done.reverse, c :: rest)
    | .close done false => .ok (String.ofList done.reverse, rest)
    | .fail => .error .malformedText

def withoutBreak : List Char → List Char
  | '\n' :: rest => rest
  | '\r' :: '\n' :: rest => rest
  | cs => cs

/-- Reads a text of one line, its opening quote being read already. -/
def readLine (escapes : Bool) (cs : List Char) : Except Error (String × List Char) :=
  readFrom ⟨escapes, false⟩ .text [] cs

/-- Reads a text; `none` if no quote stands here. -/
def read? : List Char → Option (Except Error (String × List Char))
  | '"' :: '"' :: '"' :: rest => some (readFrom ⟨true, true⟩ .text [] (withoutBreak rest))
  | '"' :: rest => some (readLine true rest)
  | '\'' :: '\'' :: '\'' :: rest => some (readFrom ⟨false, true⟩ .text [] (withoutBreak rest))
  | '\'' :: rest => some (readLine false rest)
  | _ => none

end DriverValidation.Toml.Text
