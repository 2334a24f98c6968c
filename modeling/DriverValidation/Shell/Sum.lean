/-!
Sums in shell scripts: whole numbers of 64 bits and parameters with the usual operators, conditions,
brackets and assignments.
-/

namespace DriverValidation.Shell.Sum

/-- A number, a parameter or a sign. -/
inductive Token where
  | number (n : Int)
  | name (cs : List Char)
  | sign (cs : List Char)
  deriving Repr, DecidableEq

/-- The signs, longer ones before those they start with. -/
def signs : List (List Char) :=
  ["<<=", ">>=", "||", "&&", "==", "!=", "<=", ">=", "<<", ">>", "*=", "/=", "%=", "+=", "-=", "&=",
    "^=", "|=", "(", ")", "!", "~", "?", ":", "<", ">", "+", "-", "*", "/", "%", "&", "^", "|",
    "="].map String.toList

/-- The number of 64 bits that a number is cut to. -/
def wrap (n : Int) : Int := n.bmod 0x10000000000000000

/-- The number nearest to another one that has 64 bits. -/
def clamp (n : Int) : Int := max (-0x8000000000000000) (min n 0x7fffffffffffffff)

/-- The value of a digit of some base. -/
def digit? (base : Nat) (c : Char) : Option Nat :=
  let value :=
    if c.isDigit then c.toNat - '0'.toNat
    else if 'a' ≤ c && c ≤ 'f' then c.toNat - 'a'.toNat + 10
    else if 'A' ≤ c && c ≤ 'F' then c.toNat - 'A'.toNat + 10
    else base
  if value < base then some value else none

/-- The number that the digits at the start of a text make, and the text behind them. -/
def digits (base : Nat) (cs : List Char) : Nat × List Char :=
  let isDigit := fun c => (digit? base c).isSome
  ((cs.takeWhile isDigit).foldl (fun n c => n * base + (digit? base c).getD 0) 0,
    cs.dropWhile isDigit)

/-- Reads a number, which is written in base ten, behind a zero in base eight, and behind a zero and an
x in base sixteen; nothing if there is no digit. -/
def natural? : List Char → Option (Nat × List Char)
  | '0' :: x :: c :: rest =>
    if (x == 'x' || x == 'X') && (digit? 16 c).isSome then some (digits 16 (c :: rest))
    else some (digits 8 ('0' :: x :: c :: rest))
  | c :: rest =>
    if c == '0' then some (digits 8 (c :: rest))
    else if c.isDigit then some (digits 10 (c :: rest))
    else none
  | [] => none

def isSpace (c : Char) : Bool := c == ' ' || (9 ≤ c.toNat && c.toNat ≤ 13)

/-- Reads a number with an optional sign behind white space. -/
def integer? (cs : List Char) : Option (Int × List Char) :=
  match cs.dropWhile isSpace with
  | '-' :: rest => (natural? rest).map fun (n, rest) => (clamp (-n), rest)
  | '+' :: rest => (natural? rest).map fun (n, rest) => (clamp n, rest)
  | rest => (natural? rest).map fun (n, rest) => (clamp n, rest)

/-- The tokens of a sum. What is none of them is a sign without a meaning. -/
def tokens : Nat → List Char → List Token
  | 0, _ => []
  | _ + 1, [] => []
  | fuel + 1, c :: rest =>
    if c == ' ' || c == '\t' || c == '\n' then tokens fuel rest
    else
      match natural? (c :: rest) with
      | some (n, after) => .number (clamp n) :: tokens fuel after
      | none =>
        let isName := fun (c : Char) => c.isAlphanum || c == '_'
        if isName c then
          .name ((c :: rest).takeWhile isName) :: tokens fuel ((c :: rest).dropWhile isName)
        else
          match signs.find? (·.isPrefixOf (c :: rest)) with
          | some s => .sign s :: tokens fuel ((c :: rest).drop s.length)
          | none => .sign [c] :: tokens fuel rest

/-- The operators of two numbers by how strongly they bind, weakest first. -/
def levels : List (List String) :=
  [["|"], ["^"], ["&"], ["==", "!="], ["<", "<=", ">", ">="], ["<<", ">>"], ["+", "-"],
    ["*", "/", "%"]]

/-- The operators that may stand before the sign of an assignment. -/
def assigning : List String := ["*", "/", "%", "+", "-", "<<", ">>", "&", "^", "|"]

/-- One for a condition that holds, zero for others. -/
def ofBool (b : Bool) : Int := if b then 1 else 0

def bits (n : Int) : BitVec 64 := BitVec.ofInt 64 n

/-- What an operator makes of two numbers; nothing makes a division by zero. -/
def combine? (operator : String) (a b : Int) : Option Int :=
  match operator with
  | "|" => some (bits a ||| bits b).toInt
  | "^" => some (bits a ^^^ bits b).toInt
  | "&" => some (bits a &&& bits b).toInt
  | "==" => some (ofBool (a == b))
  | "!=" => some (ofBool (a != b))
  | "<=" => some (ofBool (a ≤ b))
  | ">=" => some (ofBool (b ≤ a))
  | "<" => some (ofBool (a < b))
  | ">" => some (ofBool (b < a))
  | "<<" => some (bits a <<< (b % 64).toNat).toInt
  | ">>" => some ((bits a).sshiftRight (b % 64).toNat).toInt
  | "+" => some (wrap (a + b))
  | "-" => some (wrap (a - b))
  | "*" => some (wrap (a * b))
  | "/" => if b == 0 then none else some (wrap (a.tdiv b))
  | "%" => if b == 0 then none else some (a.tmod b)
  | _ => none

/-- The state of evaluation: the tokens that follow, and the assignments made, latest first. -/
structure State where
  rest : List Token
  assigned : List (List Char × Int)

/-- A step of evaluation, which may fail with a wording. -/
abbrev Step := StateT State (Except String)

/-- The wording of a value that is no number. -/
def illegalNumber (s : String) : String := "Illegal number: " ++ s

/-- The number that a value stands for; no value is zero. -/
def numberOf (value : String) : Except String Int :=
  if value.toList.all isSpace then .ok 0
  else
    match integer? value.toList with
    | some (n, rest) => if rest.all isSpace then .ok n else .error (illegalNumber value)
    | none => .error (illegalNumber value)

/-- Fails with a wording that tells the whole sum. -/
def fail {α : Type} (whole : List Char) (cause : String) : Step α :=
  throw ("arithmetic expression: " ++ cause ++ ": \"" ++ String.ofList whole ++ "\"")

def accept (s : String) : Step Bool := do
  let state ← get
  match state.rest with
  | .sign t :: rest =>
    if t == s.toList then
      set { state with rest }
      return true
    else return false
  | _ => return false

def valueOf (lookup : List Char → String) (name : List Char) : Step Int := do
  match (← get).assigned.lookup name with
  | some n => return n
  | none => liftM (numberOf (lookup name))

/-- The operator of an assignment whose sign is some text; a bare assignment has none. -/
def assignment? (cs : List Char) : Option (Option String) :=
  if cs == ['='] then some none
  else (assigning.find? fun o => cs == o.toList ++ ['=']).map some

/-- What an operator makes of two numbers where it counts. -/
def combine (whole : List Char) (counts : Bool) (operator : String) (a b : Int) : Step Int :=
  if !counts then return b
  else
    match combine? operator a b with
    | some n => return n
    | none => fail whole "division by zero"

mutual

/-- Evaluates a whole sum; where it does not count, nothing is looked up or assigned. -/
def assignment (lookup : List Char → String) (whole : List Char) (counts : Bool) : Nat → Step Int
  | 0 => fail whole "too deep"
  | fuel + 1 => do
    let state ← get
    match state.rest with
    | .name name :: .sign s :: rest =>
      match assignment? s with
      | none => choice lookup whole counts fuel
      | some operator =>
        set { state with rest }
        let n ← assignment lookup whole counts fuel
        if !counts then return n
        else
          let n ←
            match operator with
            | none => pure n
            | some operator => combine whole counts operator (← valueOf lookup name) n
          modify fun state => { state with assigned := (name, n) :: state.assigned }
          return n
    | _ => choice lookup whole counts fuel

/-- Evaluates a condition and one of two sums. -/
def choice (lookup : List Char → String) (whole : List Char) (counts : Bool) : Nat → Step Int
  | 0 => fail whole "too deep"
  | fuel + 1 => do
    let a ← disjunction lookup whole counts fuel
    if ← accept "?" then
      let b ← assignment lookup whole (counts && a != 0) fuel
      if ← accept ":" then
        let c ← choice lookup whole (counts && a == 0) fuel
        return if a != 0 then b else c
      else fail whole "expecting ':'"
    else return a

def disjunction (lookup : List Char → String) (whole : List Char) (counts : Bool) : Nat → Step Int
  | 0 => fail whole "too deep"
  | fuel + 1 => do
    let a ← conjunction lookup whole counts fuel
    if ← accept "||" then
      let b ← disjunction lookup whole (counts && a == 0) fuel
      return ofBool (a != 0 || b != 0)
    else return a

def conjunction (lookup : List Char → String) (whole : List Char) (counts : Bool) : Nat → Step Int
  | 0 => fail whole "too deep"
  | fuel + 1 => do
    let a ← level lookup whole counts levels fuel
    if ← accept "&&" then
      let b ← conjunction lookup whole (counts && a != 0) fuel
      return ofBool (a != 0 && b != 0)
    else return a

/-- Evaluates the operators of some levels. -/
def level (lookup : List Char → String) (whole : List Char) (counts : Bool)
    (operators : List (List String)) : Nat → Step Int
  | 0 => fail whole "too deep"
  | fuel + 1 => do
    match operators with
    | [] => operand lookup whole counts fuel
    | weakest :: stronger =>
      let a ← level lookup whole counts stronger fuel
      levelBehind lookup whole counts weakest stronger a fuel

/-- Evaluates on behind an operand. -/
def levelBehind (lookup : List Char → String) (whole : List Char) (counts : Bool)
    (weakest : List String) (stronger : List (List String)) (a : Int) : Nat → Step Int
  | 0 => fail whole "too deep"
  | fuel + 1 => do
    let state ← get
    match state.rest with
    | .sign s :: rest =>
      match weakest.find? (·.toList == s) with
      | none => return a
      | some operator =>
        set { state with rest }
        let b ← level lookup whole counts stronger fuel
        let n ← combine whole counts operator a b
        levelBehind lookup whole counts weakest stronger n fuel
    | _ => return a

/-- Evaluates a number, a parameter, or a sum in brackets, with signs in front. -/
def operand (lookup : List Char → String) (whole : List Char) (counts : Bool) : Nat → Step Int
  | 0 => fail whole "too deep"
  | fuel + 1 => do
    let state ← get
    match state.rest with
    | .number n :: rest =>
      set { state with rest }
      return n
    | .name name :: rest =>
      set { state with rest }
      if counts then valueOf lookup name else return 0
    | _ =>
      if ← accept "(" then
        let n ← assignment lookup whole counts fuel
        if ← accept ")" then return n else fail whole "expecting ')'"
      else if ← accept "-" then return wrap (-(← operand lookup whole counts fuel))
      else if ← accept "+" then operand lookup whole counts fuel
      else if ← accept "!" then return ofBool ((← operand lookup whole counts fuel) == 0)
      else if ← accept "~" then return wrap (-(← operand lookup whole counts fuel) - 1)
      else fail whole "expecting primary"

end

/-- The value of a sum, given the values of parameters, and the assignments made in it, first one
first; or the wording of a failure. -/
def evaluate (lookup : List Char → String) (cs : List Char) :
    Except String (Int × List (List Char × Int)) := do
  let ts := tokens (cs.length + 1) cs
  let (n, state) ← (assignment lookup cs true (16 * (ts.length + 2))).run ⟨ts, []⟩
  if state.rest.isEmpty then return (n, state.assigned.reverse)
  else
    throw ("arithmetic expression: expecting EOF: \"" ++ String.ofList cs ++ "\"")

end DriverValidation.Shell.Sum
