/-!
Shell scripts as they are written: words, which are made of pieces, redirections, and commands. Quotes
decide whether what a piece stands for is split into several words.
-/

namespace DriverValidation.Shell

/-- How a file is opened. -/
inductive Opening where
  | read
  | write
  | append
  | readAndWrite
  deriving Repr, DecidableEq

/-- What happens where a parameter has no value: a word takes its place, in which case it may be given
to the parameter as well, or stands only for those that have a value, or the script ends with it. -/
inductive Fallback where
  | substitute
  | assign
  | invert
  | complain
  deriving Repr, DecidableEq

mutual

/-- A piece of a word: text, the value of a parameter, the value of a sum, or what a command writes. -/
inductive Piece where
  | text (cs : List Char) (quoted : Bool)
  | parameter (name : List Char) (use : Use) (quoted : Bool)
  | sum (pieces : List Piece) (quoted : Bool)
  | output (c : Option Command) (quoted : Bool)

/-- What is made of the value of a parameter. What takes its place may do so for empty values too, and
what is cut off is the shortest or longest piece at one end that a pattern fits. -/
inductive Use where
  | value
  | length
  | fallback (evenIfEmpty : Bool) (kind : Fallback) (pieces : List Piece)
  | cut (atStart longest : Bool) (pieces : List Piece)
  | malformed

/-- Where a file of a command leads: to a file that is opened, to where another one leads, or to a
document that stands in the script. -/
inductive Redirect where
  | opened (file : Nat) (way : Opening) (path : List Piece)
  | duplicate (file : Nat) (target : List Piece)
  | document (file number : Nat)

/-- A command, with the line on which it stands. -/
inductive Command where
  | simple (line : Nat) (assignments : List (List Char × List Piece)) (words : List (List Piece))
    (redirects : List Redirect)
  | negated (c : Command)
  | both (a b : Command)
  | either (a b : Command)
  | sequence (a b : Command)
  | pipe (stages : List Command)
  | background (c : Command)
  | loop (whileTrue : Bool) (condition body : Command)
  | branch (condition consequence : Command) (alternative : Option Command)
  | each (line : Nat) (name : List Char) (words : List (List Piece)) (body : Command)
  | choice (line : Nat) (subject : List Piece) (cases : List Case)
  | define (name : List Char) (body : Command)
  | group (line : Nat) (c : Command) (redirects : List Redirect)
  | isolated (line : Nat) (c : Command) (redirects : List Redirect)

/-- The command for subjects that one of some patterns fits. -/
inductive Case where
  | mk (patterns : List (List Piece)) (body : Option Command)

end

abbrev Word := List Piece

def isNameChar (c : Char) : Bool := c.isAlphanum || c == '_'

def isName : List Char → Bool
  | [] => false
  | c :: cs => !c.isDigit && isNameChar c && cs.all isNameChar

namespace Word

/-- The text of a word without quotes and values. -/
def plain? : Word → Option (List Char)
  | [] => some []
  | .text cs false :: w => (plain? w).map (cs ++ ·)
  | _ => none

/-- The word with a character in front. -/
def cons (c : Char) (quoted : Bool) : Word → Word
  | .text cs q :: w => if q == quoted then .text (c :: cs) q :: w else .text [c] quoted :: .text cs q :: w
  | w => .text [c] quoted :: w

/-- The name and the value that a word gives to a parameter, if it does. -/
def assignment? : Word → Option (List Char × Word)
  | .text cs false :: w =>
    let name := cs.takeWhile isNameChar
    match cs.dropWhile isNameChar with
    | '=' :: value =>
      if isName name then some (name, if value.isEmpty then w else .text value false :: w) else none
    | _ => none
  | _ => none

end Word

end DriverValidation.Shell
