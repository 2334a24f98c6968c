import DriverValidation.Shell.Syntax

/-!
The tokens of a shell script, and what can be wrong with their order.
-/

namespace DriverValidation.Shell

/-- The special commands of a shell, which functions cannot be named like, and whose failure ends it. -/
def specialCommands : List String :=
  [".", ":", "break", "continue", "eval", "exec", "exit", "export", "local", "readonly", "return",
    "set", "shift", "times", "trap", "unset"]

/-- A redirection up to the word behind it. -/
inductive RedirectSign where
  | opened (file : Nat) (way : Opening)
  | duplicate (file : Nat)
  | document (file : Nat) (withoutTabs : Bool)
  deriving Repr, DecidableEq

/-- A word, an operator or a keyword. -/
inductive Token where
  | ending
  | newline
  | semicolon
  | background
  | both
  | either
  | pipe
  | opening
  | closing
  | caseEnd
  | word (w : Word)
  | redirect (sign : RedirectSign)
  | keyword (name : String)

namespace Token

def keywords : List String :=
  ["!", "case", "do", "done", "elif", "else", "esac", "fi", "for", "if", "in", "then", "until",
    "while", "\x7b", "\x7d"]

/-- How a token is named in complaints. -/
def describe : Token → String
  | ending => "end of file"
  | newline => "newline"
  | semicolon => "\";\""
  | background => "\"&\""
  | both => "\"&&\""
  | either => "\"||\""
  | pipe => "\"|\""
  | opening => "\"(\""
  | closing => "\")\""
  | caseEnd => "\";;\""
  | word _ => "word"
  | redirect _ => "redirection"
  | keyword name => "\"" ++ name ++ "\""

def isKeyword (name : String) : Token → Bool
  | keyword other => other == name
  | _ => false

def endsList : Token → Bool
  | ending | closing | caseEnd => true
  | keyword name => ["do", "done", "elif", "else", "esac", "fi", "then", "\x7d"].contains name
  | _ => false

end Token

/-- Why a script is malformed. -/
inductive SyntaxError where
  | unexpected (found : Token) (expected : Option Token)
  | openQuote
  | openBrace
  | openSum
  | openBackquote
  | badFunctionName
  | badLoopName
  | tooDeep

namespace SyntaxError

def message : SyntaxError → String
  | unexpected found none => found.describe ++ " unexpected"
  | unexpected found (some expected) =>
    found.describe ++ " unexpected (expecting " ++ expected.describe ++ ")"
  | openQuote => "Unterminated quoted string"
  | openBrace => "Missing '\x7d'"
  | openSum => "Missing '))'"
  | openBackquote => "EOF in backquote substitution"
  | badFunctionName => "Bad function name"
  | badLoopName => "Bad for loop variable"
  | tooDeep => "too deep"

end SyntaxError

end DriverValidation.Shell
