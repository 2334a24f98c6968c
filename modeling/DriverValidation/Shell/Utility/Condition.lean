import DriverValidation.Shell.Utility.Program
import DriverValidation.Shell.Utility.Text

/-!
Tests of conditions on texts, numbers and paths. Shells and programs have their own: they differ in how
operators and operands are told apart and in what they complain about.
-/

namespace DriverValidation.Shell.Utility.Condition

/-- What stands at a path. -/
inductive Kind where
  | directory
  | program
  | device
  | file (size : Nat)
  deriving Repr, DecidableEq

/-- What stands at a path, if anything does. -/
def kind? (m : Machine) (path : String) : Option Kind :=
  if (ofPath? (m.full path)).isSome then some .program
  else
    match m.entry? path with
    | some .directory => some .directory
    | some (.file contents) =>
      if m.full path == "/dev/null" then some .device else some (.file contents.length)
    | none => none

/-- The value of an operator of one path, given what stands there; nothing if there is no such
operator. -/
def ofKind? (operator : Char) (found : Option Kind) : Option Bool :=
  match operator with
  | 'e' | 'r' | 'w' | 'O' | 'G' => some found.isSome
  | 'd' => some (found == some .directory)
  | 'c' => some (found == some .device)
  | 'f' =>
    some (match found with
      | some .program | some (.file _) => true
      | _ => false)
  | 's' =>
    some (match found with
      | some .program | some .directory => true
      | some (.file size) => 0 < size
      | _ => false)
  | 'x' => some (found == some .program || found == some .directory)
  | 'b' | 'p' | 'u' | 'g' | 'k' | 'h' | 'L' | 'S' => some false
  | _ => none

/-- A comparison of two numbers; nothing if there is no such operator. -/
def ofNumbers? (operator : String) : Option (Int → Int → Bool) :=
  match operator with
  | "-eq" => some (· == ·)
  | "-ne" => some (· != ·)
  | "-lt" => some fun a b => a < b
  | "-le" => some fun a b => a ≤ b
  | "-gt" => some fun a b => b < a
  | "-ge" => some fun a b => b ≤ a
  | _ => none

/-- A comparison of what stands at two paths; nothing if there is no such operator. Nothing is newer
than anything else. -/
def ofPaths? (operator : String) (a b : String) : Option Bool :=
  match operator with
  | "-nt" | "-ot" => some false
  | "-ef" => some ((Files.Path.ofText a).names == (Files.Path.ofText b).names)
  | _ => none

/-- A whole number in base ten with white space around it. -/
def decimal? (s : String) : Option Int :=
  let digits := fun (cs : List Char) =>
    let ds := cs.takeWhile Char.isDigit
    if ds.isEmpty || !(cs.dropWhile Char.isDigit).all Sum.isSpace then none
    else some (ds.foldl (fun n d => n * 10 + (d.toNat - '0'.toNat)) 0)
  match s.toList.dropWhile Sum.isSpace with
  | '-' :: cs => (digits cs).map fun n => -(n : Int)
  | '+' :: cs | cs => (digits cs).map fun n => (n : Int)

namespace ByShell

inductive Role where
  | unary
  | binary
  | negation
  | both
  | either
  | opening
  | closing
  deriving Repr, DecidableEq

/-- What a word may do, if it is an operator. -/
def role? (s : String) : Option Role :=
  match s with
  | "!" => some .negation
  | "-a" => some .both
  | "-o" => some .either
  | "(" => some .opening
  | ")" => some .closing
  | "-z" | "-n" | "-t" => some .unary
  | "=" | "!=" | "<" | ">" | "-nt" | "-ot" | "-ef" => some .binary
  | s =>
    if (ofNumbers? s).isSome then some .binary
    else
      match s.toList with
      | ['-', c] => if (ofKind? c none).isSome then some .unary else none
      | _ => none

/-- What a word does where it stands. -/
inductive Lexeme where
  | ending
  | operand
  | operator (r : Role)
  deriving Repr, DecidableEq

/-- What the first of some words does. An operator of one operand is an operand itself where it is the
last word, or where an operator of two operands and another word follow. -/
def lexeme : List String → Lexeme
  | [] => .ending
  | s :: rest =>
    match role? s with
    | none => .operand
    | some .unary =>
      match rest with
      | [] => .operand
      | next :: _ :: _ => if role? next == some .binary then .operand else .operator .unary
      | _ => .operator .unary
    | some .opening => if rest.isEmpty then .operand else .operator .opening
    | some r => .operator r

def number (s : String) : Except String Int :=
  match decimal? s with
  | some n => if Sum.clamp n == n then .ok n else .error (Sum.illegalNumber s)
  | none => .error (Sum.illegalNumber s)

def unary (m : Machine) (operator operand : String) : Except String Bool :=
  match operator with
  | "-z" => .ok (operand == "")
  | "-n" => .ok (operand != "")
  | "-t" => (number operand).map fun _ => false
  | operator =>
    match operator.toList with
    | ['-', c] => .ok ((ofKind? c (kind? m operand)).getD false)
    | _ => .ok false

def binary (operator a b : String) : Except String Bool :=
  match operator with
  | "=" => .ok (a == b)
  | "!=" => .ok (a != b)
  | "<" => .ok (a < b)
  | ">" => .ok (b < a)
  | operator =>
    match ofNumbers? operator with
    | some f => do return f (← number a) (← number b)
    | none => .ok ((ofPaths? operator a b).getD false)

/-- The complaint about an operator that nothing follows. -/
def noOperand (operator : String) : String := operator ++ ": argument expected"

mutual

/-- Evaluates alternatives that start with some words, the first of which does something. The words
behind are given with the last one that was evaluated. -/
def alternatives (m : Machine) (first : Lexeme) (words : List String) :
    Nat → Except String (Bool × List String)
  | 0 => .error "too deep"
  | fuel + 1 => do
    let (a, words) ← conjunction m first words fuel
    if lexeme words.tail == .operator .either then
      let words := words.drop 2
      let (b, words) ← alternatives m (lexeme words) words fuel
      return (a || b, words)
    else return (a, words)

def conjunction (m : Machine) (first : Lexeme) (words : List String) :
    Nat → Except String (Bool × List String)
  | 0 => .error "too deep"
  | fuel + 1 => do
    let (a, words) ← negation m first words fuel
    if lexeme words.tail == .operator .both then
      let words := words.drop 2
      let (b, words) ← conjunction m (lexeme words) words fuel
      return (a && b, words)
    else return (a, words)

def negation (m : Machine) (first : Lexeme) (words : List String) :
    Nat → Except String (Bool × List String)
  | 0 => .error "too deep"
  | fuel + 1 => do
    if first == .operator .negation then
      let next := lexeme words.tail
      let (b, words) ← negation m next (if next == .ending then words else words.tail) fuel
      return (!b, words)
    else primary m first words fuel

/-- Evaluates a condition of one operator, or one in brackets. -/
def primary (m : Machine) (first : Lexeme) (words : List String) :
    Nat → Except String (Bool × List String)
  | 0 => .error "too deep"
  | fuel + 1 => do
    match first, words with
    | .ending, _ | _, [] => return (false, words)
    | .operator .opening, _ :: words =>
      let first := lexeme words
      if first == .operator .closing then return (false, words)
      else
        let (b, words) ← alternatives m first words fuel
        let words := words.tail
        if lexeme words == .operator .closing then return (b, words)
        else throw "closing paren expected"
    | .operator .unary, operator :: words =>
      match words with
      | [] => throw (noOperand operator)
      | operand :: _ => return (← unary m operator operand, words)
    | _, a :: rest =>
      if lexeme rest == .operator .binary then
        match rest with
        | operator :: b :: rest => return (← binary operator a b, b :: rest)
        | [operator] => throw (noOperand operator)
        | [] => return (a != "", words)
      else return (a != "", words)

end

/-- Evaluates all words of a condition. -/
def whole (m : Machine) (first : Lexeme) (words : List String) : Except String Bool := do
  let (b, words) ← alternatives m first words (8 * words.length + 16)
  match words with
  | s :: _ :: _ => throw ((if s == "" then "" else s ++ ": ") ++ "unexpected operator")
  | _ => return b

/-- The truth of a condition, or the complaint about it. Few words are told apart by their number. -/
def truth (m : Machine) : Nat → List String → Except String Bool
  | 0, _ | _, [] => .ok false
  | fuel + 1, words =>
    let isFew := words.length == 3 || words.length == 4
    if words.length == 3 && (words.tail.head?.bind role?) == some .binary then
      whole m .operand words
    else if isFew && words.head? == some "(" && words.getLast? == some ")" then
      let inside := words.tail.dropLast
      whole m (lexeme inside) inside
    else if isFew && words.head? == some "!" then (truth m fuel words.tail).map (!·)
    else whole m (lexeme words) words

end ByShell

namespace ByProgram

/-- The complaint about words that end too early. -/
def tooShort (words : List String) : String :=
  "missing argument after " ++ inQuotes (words.getLast?.getD "")

def number (s : String) : Except String Int :=
  match decimal? s with
  | some n => .ok n
  | none => .error ("invalid integer " ++ inQuotes s)

def isBinary (s : String) : Bool :=
  ["=", "==", "!=", "-nt", "-ot", "-ef"].contains s || (ofNumbers? s).isSome

def looksUnary (s : String) : Bool :=
  match s.toList with
  | ['-', _] => true
  | _ => false

def unary (m : Machine) (operator operand : String) : Except String Bool :=
  match operator with
  | "-z" => .ok (operand == "")
  | "-n" => .ok (operand != "")
  | "-t" => (number operand).map fun _ => false
  | "-N" => .ok false
  | operator =>
    match operator.toList with
    | ['-', c] =>
      match ofKind? c (kind? m operand) with
      | some b => .ok b
      | none => .error (inQuotes operator ++ ": unary operator expected")
    | _ => .error (inQuotes operator ++ ": unary operator expected")

def binary (m : Machine) (operator a b : String) : Except String Bool :=
  match operator with
  | "=" | "==" => .ok (a == b)
  | "!=" => .ok (a != b)
  | "-nt" => .ok ((kind? m a).isSome && (kind? m b).isNone)
  | "-ot" => .ok ((kind? m a).isNone && (kind? m b).isSome)
  | operator =>
    match ofNumbers? operator with
    | some f => do return f (← number a) (← number b)
    | none => .ok ((ofPaths? operator a b).getD false && (kind? m a).isSome)

mutual

/-- Evaluates a certain number of words at the start of others, and gives those behind. -/
def few (m : Machine) (all : List String) (count : Nat) (words : List String) :
    Nat → Except String (Bool × List String)
  | 0 => .error "too deep"
  | fuel + 1 => do
    match count, words with
    | 1, a :: rest => return (a != "", rest)
    | 2, a :: b :: rest =>
      if a == "!" then return (b == "", rest)
      else if looksUnary a then return (← unary m a b, rest)
      else throw (tooShort all)
    | 3, a :: operator :: b :: rest =>
      if isBinary operator then return (← binary m operator a b, rest)
      else if a == "!" then
        let (value, rest) ← few m all 2 (operator :: b :: rest) fuel
        return (!value, rest)
      else if a == "(" && b == ")" then return (operator != "", rest)
      else if operator == "-a" || operator == "-o" then alternatives m all words fuel
      else throw (inQuotes operator ++ ": binary operator expected")
    | 4, a :: b :: c :: d :: rest =>
      if a == "!" then
        let (value, rest) ← few m all 3 (b :: c :: d :: rest) fuel
        return (!value, rest)
      else if a == "(" && d == ")" then
        let (value, _) ← few m all 2 [b, c] fuel
        return (value, rest)
      else alternatives m all words fuel
    | _, words => alternatives m all words fuel

/-- Evaluates alternatives. -/
def alternatives (m : Machine) (all words : List String) :
    Nat → Except String (Bool × List String)
  | 0 => .error "too deep"
  | fuel + 1 => do
    let (a, rest) ← conjunction m all words fuel
    match rest with
    | "-o" :: rest =>
      let (b, rest) ← alternatives m all rest fuel
      return (a || b, rest)
    | rest => return (a, rest)

/-- Evaluates conditions that have to hold together. -/
def conjunction (m : Machine) (all words : List String) :
    Nat → Except String (Bool × List String)
  | 0 => .error "too deep"
  | fuel + 1 => do
    let (a, rest) ← term m all words fuel
    match rest with
    | "-a" :: rest =>
      let (b, rest) ← conjunction m all rest fuel
      return (a && b, rest)
    | rest => return (a, rest)

/-- Evaluates a condition of one operator, one in brackets, or a negated one. -/
def term (m : Machine) (all words : List String) : Nat → Except String (Bool × List String)
  | 0 => .error "too deep"
  | fuel + 1 => do
    match words with
    | [] => throw (tooShort all)
    | "!" :: rest =>
      let (b, rest) ← term m all rest fuel
      return (!b, rest)
    | "(" :: rest =>
      if rest.isEmpty then throw (tooShort all)
      else
        let inside := 1 + (rest.tail.takeWhile (· != ")")).length
        let (b, rest) ← few m all (if 4 < inside then rest.length else inside) rest fuel
        match rest with
        | [] => throw (inQuotes ")" ++ " expected")
        | ")" :: rest => return (b, rest)
        | s :: _ => throw (inQuotes ")" ++ " expected, found " ++ s)
    | a :: rest =>
      match rest with
      | operator :: b :: behind =>
        if isBinary operator then return (← binary m operator a b, behind)
        else if looksUnary a then return (← unary m a operator, b :: behind)
        else return (a != "", rest)
      | [b] => if looksUnary a then return (← unary m a b, []) else return (a != "", rest)
      | [] => if looksUnary a then throw (tooShort all) else return (a != "", rest)

end

/-- The truth of a condition, or the complaint about it. -/
def truth (m : Machine) (words : List String) : Except String Bool := do
  if words.isEmpty then return false
  else
    let (b, rest) ← few m words words.length words (8 * words.length + 16)
    match rest with
    | [] => return b
    | s :: _ => throw ("extra argument " ++ inQuotes s)

end ByProgram

/-- The truth of a condition, or the complaint about it. -/
def truth (owner : Owner) (m : Machine) (words : List String) : Except String Bool :=
  match owner with
  | .shell => ByShell.truth m (words.length + 1) words
  | .program => ByProgram.truth m words

end Condition

def test (owner : Owner) (name : String) : Action := fun arguments m =>
  match Condition.truth owner m arguments with
  | .ok b => m.withStatus (if b then 0 else 1)
  | .error e => complaint owner name m e 2

def bracket (owner : Owner) : Action := fun arguments m =>
  let isClosed :=
    match owner, arguments.getLast? with
    | .shell, some s => s.toList.head? == some ']'
    | .program, last => last == some "]"
    | .shell, none => false
  if isClosed then test owner "[" arguments.dropLast m
  else
    complaint owner "[" m (match owner with
      | .shell => "missing ]"
      | .program => "missing ']'") 2

end DriverValidation.Shell.Utility
