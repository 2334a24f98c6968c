import DriverValidation.Number.Decimal
import DriverValidation.Regex.Usable

/-!
The filter of the log: directives with commas between, each a level, or a target with a span in
brackets, fields of the span in braces, and a level behind an equals sign.
-/

namespace DriverValidation.LogFilter

/-- Why a text is no filter. -/
inductive Fault where
  | malformed
  | brokenCharacter
  deriving Repr, DecidableEq

/-- What the characters of a directive belong to; spans, fields and levels start behind a number of
bytes. -/
inductive Stage where
  | start
  | levelOrTarget
  | span (begin : Nat)
  | field (begin : Nat)
  | fields
  | target
  | level (begin : Nat)
  deriving Repr, DecidableEq

/-- The characters that some bytes make and those behind them; nothing if there are too few bytes, or
if the last of them is not the last of a character. -/
def splitBytes? : Nat → List Char → Option (List Char × List Char)
  | 0, cs => some ([], cs)
  | _ + 1, [] => none
  | n + 1, c :: cs =>
    if c.utf8Size ≤ n + 1 then
      (splitBytes? (n + 1 - c.utf8Size) cs).map fun (taken, rest) => (c :: taken, rest)
    else none

/-- The characters behind some bytes. -/
def behind (begin : Nat) (cs : List Char) : Except Fault (List Char) :=
  match splitBytes? begin cs with
  | some (_, rest) => .ok rest
  | none => .error .brokenCharacter

/-- The characters between two places, which are counted in bytes. -/
def between (begin ending : Nat) (cs : List Char) : Except Fault (List Char) := do
  match splitBytes? (ending - begin) (← behind begin cs) with
  | some (inside, _) => .ok inside
  | none => .error .brokenCharacter

/-- The small letter of a capital one; other characters stay. -/
def lower (c : Char) : Char := c.toLower

def withoutPlus : List Char → List Char
  | '+' :: cs => cs
  | cs => cs

/-- The text is a level: a word for one, a number up to five, or nothing. -/
def isLevel (cs : List Char) : Bool :=
  let digits := withoutPlus cs
  (!digits.isEmpty && digits.all Char.isDigit && Number.Decimal.digitsValue digits ≤ 5) ||
    ["", "error", "warn", "info", "debug", "trace", "off"].contains (String.ofList (cs.map lower))

/-- The text is a number with a sign or without, or a word for one beyond all numbers or for none. -/
def isNumber (cs : List Char) : Bool :=
  Number.Decimal.isDecimal cs ||
    ["inf", "infinity", "nan"].contains
      (String.ofList ((Number.Decimal.splitSign cs).2.map lower))

/-- The text is a value that a field can be compared with: a number, or a regular expression, which
words are as well. -/
def isValue (cs : List Char) : Bool := isNumber cs || Regex.isRegex cs

/-- The text is a field: a name, or a name and a value with an equals sign between. What stands behind
a second sign does not count. -/
def isField (cs : List Char) : Bool :=
  !cs.isEmpty &&
    match cs.dropWhile (· != '=') with
    | _ :: rest => isValue (rest.takeWhile (· != '='))
    | [] => true

/-- The stage after a character, before which `index` bytes of the directive stand. Spans and fields
are taken from `text`. -/
def Stage.next (stage : Stage) (text : List Char) (index : Nat) (c : Char) :
    Except Fault Stage :=
  match stage with
  | .start =>
    if c == '[' then .ok (.span (index + 1))
    else if c == '-' || c == ':' || c == '_' || Text.isLetterOrNumber c then .ok .levelOrTarget
    else .error .malformed
  | .levelOrTarget =>
    if c == '=' then (between 0 index text).map fun _ => .level (index + 1)
    else if c == '[' then (between 0 index text).map fun _ => .span (index + 1)
    else .ok .levelOrTarget
  | .span begin =>
    if c == ']' then (between begin index text).map fun _ => .target
    else if c == '\x7b' then (between begin index text).map fun _ => .field (index + 1)
    else .ok (.span begin)
  | .field begin =>
    if c == '\x7d' then do
      if isField (← between begin index text) then return .fields else .error .malformed
    else .ok (.field begin)
  | .fields => if c == ']' then .ok .target else .error .malformed
  | .target => if c == '=' then .ok (.level (index + 1)) else .error .malformed
  | .level begin => .ok (.level begin)

/-- The stage after some characters. -/
def Stage.afterAll (stage : Stage) (text : List Char) (index : Nat) :
    List Char → Except Fault Stage
  | [] => .ok stage
  | c :: cs => do (← stage.next text index c).afterAll text (index + c.utf8Size) cs

/-- Checks that a text is a directive. White space around it does not count, except that targets,
spans, fields and levels are cut out of the text as it is written, at places that are counted without
that white space. -/
def checkDirective (text : List Char) : Except Fault Unit := do
  match ← Stage.start.afterAll text 0 (Text.trimChars text) with
  | .levelOrTarget | .target => return ()
  | .level begin => if isLevel (← behind begin text) then return () else .error .malformed
  | _ => .error .malformed

/-- Checks that a text is a filter. Nothing between two commas is no directive and does not count. -/
def check (s : String) : Except Fault Unit :=
  ((s.toList.splitOn ',').filter (!·.isEmpty)).forM checkDirective

end DriverValidation.LogFilter
