import DriverValidation.Shell.Pattern
import DriverValidation.Shell.Utility.Condition
import DriverValidation.Shell.Utility.Files

/-!
Expressions whose operators and operands are arguments of their own: alternatives, comparisons, sums,
products, patterns and operations on texts.
-/

namespace DriverValidation.Shell.Utility.Expression

/-- The state of evaluation: the arguments that follow, and the last one that was taken. -/
structure State where
  rest : List String
  last : String
  deriving Repr, DecidableEq

/-- A step of evaluation, which may fail with a wording. -/
abbrev Step := StateT State (Except String)

/-- The whole number that a text is, if it is one. -/
def integer? (s : String) : Option Int :=
  let digits := fun (cs : List Char) =>
    if cs.isEmpty || !cs.all Char.isDigit then none
    else some (cs.foldl (fun n d => n * 10 + (d.toNat - '0'.toNat)) 0)
  match s.toList with
  | '-' :: cs => (digits cs).map fun n => -(n : Int)
  | cs => (digits cs).map fun n => (n : Int)

def isNull (s : String) : Bool := s == "" || integer? s == some 0

/-- Takes the next argument if it is a certain one. -/
def accept (s : String) : Step Bool := do
  match (← get).rest with
  | next :: rest =>
    if next == s then
      set (⟨rest, next⟩ : State)
      return true
    else return false
  | [] => return false

def acceptOne (signs : List String) : Step (Option String) := do
  match (← get).rest with
  | next :: rest =>
    if signs.contains next then
      set (⟨rest, next⟩ : State)
      return some next
    else return none
  | [] => return none

def take : Step String := do
  let state ← get
  match state.rest with
  | next :: rest =>
    set (⟨rest, next⟩ : State)
    return next
  | [] => throw ("syntax error: missing argument after " ++ inQuotes state.last)

/-- What a pattern finds at the start of a text: what its first group fits, or else how many characters
it fits. -/
def find (s pattern : String) : Except String String :=
  match Pattern.ofChars .basic pattern.toList with
  | .error e => .error e.message
  | .ok (part, groups) =>
    let text := s.toList.toArray
    match Pattern.fitAt? part text 0, groups with
    | none, 0 => .ok "0"
    | none, _ => .ok ""
    | some f, 0 => .ok (toString f.place)
    | some f, _ =>
      match f.groups.lookup 1 with
      | some (first, last) => .ok (String.ofList (Pattern.slice text first last))
      | none => .ok ""

def combine (operator a b : String) : Except String String :=
  let truth := fun (b : Bool) => if b then "1" else "0"
  let compared := fun (numbers : Int → Int → Bool) (texts : Bool) =>
    match integer? a, integer? b with
    | some x, some y => .ok (truth (numbers x y))
    | _, _ => .ok (truth texts)
  let computed := fun (f : Int → Int → Except String Int) =>
    match integer? a, integer? b with
    | some x, some y => (f x y).map toString
    | _, _ => .error "non-integer argument"
  let divided := fun (f : Int → Int → Int) (x y : Int) =>
    if y == 0 then .error "division by zero" else .ok (f x y)
  match operator with
  | "=" | "==" => compared (· == ·) (a == b)
  | "!=" => compared (· != ·) (a != b)
  | "<" => compared (fun x y => x < y) (a < b)
  | "<=" => compared (fun x y => x ≤ y) (!decide (b < a))
  | ">" => compared (fun x y => y < x) (b < a)
  | ">=" => compared (fun x y => y ≤ x) (!decide (a < b))
  | "+" => computed fun x y => .ok (x + y)
  | "-" => computed fun x y => .ok (x - y)
  | "*" => computed fun x y => .ok (x * y)
  | "/" => computed (divided Int.tdiv)
  | "%" => computed (divided Int.tmod)
  | _ => find a b

/-- The operators of two values that are evaluated in any case, weakest first. -/
def levels : List (List String) :=
  [["<", "<=", "=", "==", "!=", ">=", ">"], ["+", "-"], ["*", "/", "%"], [":"]]

/-- A piece of a text from a place on, with the first one counted as one. -/
def piece (s place count : String) : String :=
  match integer? place, integer? count with
  | some p, some n =>
    if p ≤ 0 || n ≤ 0 then ""
    else String.ofList ((s.toList.drop (p.toNat - 1)).take n.toNat)
  | _, _ => ""

/-- The place of the first character of a text that is one of some, with the first one counted as
one. -/
def placeOf (s characters : String) : Nat :=
  match s.toList.findIdx? characters.toList.contains with
  | some n => n + 1
  | none => 0

mutual

/-- Evaluates alternatives; where a value does not count, operators are not applied. -/
def alternatives (counts : Bool) : Nat → Step String
  | 0 => throw "too deep"
  | fuel + 1 => do alternativesBehind counts (← conjunction counts fuel) fuel

/-- Evaluates alternatives behind a first one. -/
def alternativesBehind (counts : Bool) (a : String) : Nat → Step String
  | 0 => throw "too deep"
  | fuel + 1 => do
    if ← accept "|" then
      let b ← conjunction (counts && isNull a) fuel
      let value := if !isNull a then a else if isNull b then "0" else b
      alternativesBehind counts value fuel
    else return a

def conjunction (counts : Bool) : Nat → Step String
  | 0 => throw "too deep"
  | fuel + 1 => do conjunctionBehind counts (← level counts levels fuel) fuel

/-- Evaluates values that have to hold together, behind a first one. -/
def conjunctionBehind (counts : Bool) (a : String) : Nat → Step String
  | 0 => throw "too deep"
  | fuel + 1 => do
    if ← accept "&" then
      let b ← level (counts && !isNull a) levels fuel
      conjunctionBehind counts (if isNull a || isNull b then "0" else a) fuel
    else return a

def level (counts : Bool) (operators : List (List String)) : Nat → Step String
  | 0 => throw "too deep"
  | fuel + 1 => do
    match operators with
    | [] => operation counts fuel
    | weakest :: stronger =>
      levelBehind counts weakest stronger (← level counts stronger fuel) fuel

/-- Evaluates on behind an operand. -/
def levelBehind (counts : Bool) (weakest : List String) (stronger : List (List String)) (a : String) :
    Nat → Step String
  | 0 => throw "too deep"
  | fuel + 1 => do
    match ← acceptOne weakest with
    | none => return a
    | some operator =>
      let b ← level counts stronger fuel
      let value ← if counts then liftM (combine operator a b) else pure a
      levelBehind counts weakest stronger value fuel

/-- Evaluates an operation on texts, or an operand. -/
def operation (counts : Bool) : Nat → Step String
  | 0 => throw "too deep"
  | fuel + 1 => do
    if ← accept "+" then take
    else if ← accept "length" then
      return toString (← operation counts fuel).utf8ByteSize
    else if ← accept "match" then
      let s ← operation counts fuel
      let pattern ← operation counts fuel
      if counts then liftM (find s pattern) else return s
    else if ← accept "index" then
      let s ← operation counts fuel
      return toString (placeOf s (← operation counts fuel))
    else if ← accept "substr" then
      let s ← operation counts fuel
      let place ← operation counts fuel
      return piece s place (← operation counts fuel)
    else if ← accept "(" then
      let value ← alternatives counts fuel
      let state ← get
      if ← accept ")" then return value
      else
        match state.rest with
        | [] =>
          throw ("syntax error: expecting ')' after " ++ inQuotes state.last)
        | next :: _ =>
          throw ("syntax error: expecting ')' instead of " ++ inQuotes next)
    else if ← accept ")" then throw "syntax error: unexpected ')'"
    else take

end

/-- The value of an expression, or the complaint about it. -/
def value (arguments : List String) : Except String String := do
  let (value, state) ← (alternatives true (8 * arguments.length + 16)).run ⟨arguments, "expr"⟩
  match state.rest with
  | [] => return value
  | next :: _ => throw ("syntax error: unexpected argument " ++ inQuotes next)

end Expression

/-- Writes the value of an expression, and fails if it is zero or empty. -/
def expr : Action := fun arguments m =>
  let arguments := if arguments.head? == some "--" then arguments.tail else arguments
  if arguments.isEmpty then complaint .program "expr" m ("missing operand" ++ hint "expr") 2
  else
    match Expression.value arguments with
    | .ok s =>
      emit "expr" 3 (m.withStatus (if Expression.isNull s then 1 else 0))
        (Text.Utf8.encode (s ++ "\n"))
    | .error e => complaint .program "expr" m e 2

end DriverValidation.Shell.Utility
