import DriverValidation.Number.Decimal
import DriverValidation.Shell.Machine
import DriverValidation.Shell.Sum

/-!
The commands that write texts: those that write their arguments as they are, and those that write them
in a format. Shells have their own, whose complaints differ from those of programs.
-/

namespace DriverValidation.Shell.Utility

/-- What a command does with its arguments. -/
abbrev Action := List String → Machine → Machine

/-- Who a command belongs to. -/
inductive Owner where
  | shell
  | program
  deriving Repr, DecidableEq

/-- The state after a complaint of a command, with the status of the failure. -/
def complaint (owner : Owner) (name : String) (m : Machine) (s : String) (status : Nat) : Machine :=
  match owner with
  | .shell => m.complain (m.label ++ name ++ ": " ++ s) status
  | .program => m.complain (name ++ ": " ++ s) status

def inQuotes (s : String) : String :=
  "'" ++ String.ofList (s.toList.flatMap fun c =>
    if c == '\'' || c == '\\' then ['\\', c] else [c]) ++ "'"

/-- The wording of a file of a command that is closed. -/
def badFile : String := "Bad file descriptor"

/-- Writes what a program has to say, or fails with a status where its output is closed. -/
def emit (name : String) (failure : Nat) (m : Machine) (bytes : List UInt8) : Machine :=
  if bytes.isEmpty then m
  else
    match m.write? 1 bytes with
    | some m => m
    | none => complaint .program name m ("write error: " ++ badFile) failure

/-- The value of up to `most` octal digits, and the text behind them. -/
def octal (most : Nat) (cs : List Char) : Nat × List Char :=
  let digits := (cs.take most).takeWhile fun c => '0' ≤ c && c ≤ '7'
  (digits.foldl (fun n d => n * 8 + (d.toNat - '0'.toNat)) 0, cs.drop digits.length)

/-- The byte that an escape of one letter stands for. -/
def escape? : Char → Option UInt8
  | 'a' => some 7
  | 'b' => some 8
  | 'e' => some 27
  | 'f' => some 12
  | 'n' => some 10
  | 'r' => some 13
  | 't' => some 9
  | 'v' => some 11
  | '\\' => some 92
  | _ => none

/-- The bytes of a text with escapes, and whether an escape ended it. In arguments, a zero may stand
before the digits of a number, and the text may be ended. -/
def unescape (inArgument : Bool) : Nat → List Char → List UInt8 × Bool
  | 0, _ => ([], false)
  | _ + 1, [] => ([], false)
  | fuel + 1, '\\' :: c :: rest =>
    let behind := fun (bytes : List UInt8) (rest : List Char) =>
      let (more, ended) := unescape inArgument fuel rest
      (bytes ++ more, ended)
    match escape? c with
    | some byte => behind [byte] rest
    | none =>
      if c == 'c' && inArgument then ([], true)
      else if c == '0' && inArgument then
        let (n, rest) := octal 3 rest
        behind [n.toUInt8] rest
      else if '0' ≤ c && c ≤ '7' then
        let (n, rest) := octal 3 (c :: rest)
        behind [n.toUInt8] rest
      else behind (92 :: Text.Utf8.encode (String.singleton c)) rest
  | fuel + 1, c :: rest =>
    let (bytes, ended) := unescape inArgument fuel rest
    (Text.Utf8.encode (String.singleton c) ++ bytes, ended)

/-- The bytes of an argument with escapes, and whether an escape ended it. -/
def unescaped (cs : List Char) : List UInt8 × Bool := unescape true (cs.length + 1) cs

/-- Writes its arguments with spaces between; shells put in what escapes stand for. -/
def echo (owner : Owner) : Action := fun arguments m =>
  let (newline, arguments) :=
    match arguments with
    | "-n" :: rest => (false, rest)
    | rest => (true, rest)
  let text := String.intercalate " " arguments
  let (bytes, ended) :=
    match owner with
    | .shell => unescaped text.toList
    | .program => (Text.Utf8.encode text, false)
  match m.write? 1 (if newline && !ended then bytes ++ [10] else bytes) with
  | some m => m.withStatus 0
  | none =>
    match owner with
    | .shell => complaint owner "echo" m "echo: I/O error" 1
    | .program => complaint owner "echo" m ("write error: " ++ badFile) 1

/-- A place in a format where an argument is put. -/
structure Directive where
  left : Bool
  plus : Bool
  space : Bool
  marked : Bool
  zero : Bool
  width : Nat
  precision : Option Nat
  conversion : Char
  text : List Char
  deriving Repr, DecidableEq

namespace Directive

/-- Bytes padded to the width. -/
def pad (d : Directive) (bytes : List UInt8) : List UInt8 :=
  let missing := d.width - bytes.length
  if d.left then bytes ++ List.replicate missing 32 else List.replicate missing 32 ++ bytes

/-- A number with a sign or mark in front, padded to the width. -/
def number (d : Directive) (front : String) (digits : String) : List UInt8 :=
  let digits :=
    match d.precision with
    | some n => String.ofList (List.replicate (n - digits.length) '0') ++ digits
    | none =>
      if d.zero && !d.left then
        String.ofList (List.replicate (d.width - front.length - digits.length) '0') ++ digits
      else digits
  d.pad (Text.Utf8.encode (front ++ digits))

def whole (d : Directive) (n : Int) : List UInt8 :=
  let unsigned := (n % 0x10000000000000000).toNat
  let base := fun b => String.ofList (Nat.toDigits b unsigned)
  match d.conversion with
  | 'x' => d.number (if d.marked && unsigned != 0 then "0x" else "") (base 16)
  | 'X' => d.number (if d.marked && unsigned != 0 then "0X" else "")
      (String.ofList ((base 16).toList.map Char.toUpper))
  | 'o' => d.number (if d.marked then "0" else "") (base 8)
  | 'u' => d.number "" (base 10)
  | _ =>
    let sign := if n < 0 then "-" else if d.plus then "+" else if d.space then " " else ""
    d.number sign (toString n.natAbs)

/-- A number with a fraction, with as many places as the conversion asks. -/
def fraction (d : Directive) (x : Number.Binary64) : List UInt8 :=
  match x with
  | .nan => d.pad (Text.Utf8.encode "nan")
  | .infinite negative => d.pad (Text.Utf8.encode (if negative then "-inf" else "inf"))
  | .finite significand exponent =>
    let places := d.precision.getD 6
    let scaled := significand.natAbs * Nat.pow 10 places
    let n :=
      if exponent < 0 then Number.Binary64.roundDiv scaled (Nat.pow 2 (-exponent).toNat)
      else scaled * Nat.pow 2 exponent.toNat
    let digits := toString n
    let digits := String.ofList (List.replicate (places + 1 - digits.length) '0') ++ digits
    let cut := digits.length - places
    let text :=
      if places == 0 then digits
      else String.ofList (digits.toList.take cut ++ '.' :: digits.toList.drop cut)
    let sign := if significand < 0 then "-" else if d.plus then "+" else ""
    { d with precision := none }.number sign text

end Directive

/-- What writing in a format has come to: what was written, the arguments that are left, the
complaints, latest first, and whether it goes on. -/
structure Formatting where
  bytes : List UInt8
  arguments : List String
  taken : Bool
  complaints : List String
  failed : Bool
  ended : Bool

namespace Formatting

def add (f : Formatting) (bytes : List UInt8) : Formatting := { f with bytes := f.bytes ++ bytes }

/-- The next argument, which is empty where none is left. -/
def take (f : Formatting) : String × Formatting :=
  (f.arguments.head?.getD "",
    { f with arguments := f.arguments.tail, taken := f.taken || !f.arguments.isEmpty })

/-- A complaint about a number was made. -/
def blame (f : Formatting) (s : String) : Formatting :=
  { f with complaints := s :: f.complaints }

def fail (f : Formatting) (s : String) : Formatting :=
  { f with complaints := s :: f.complaints, failed := true }

/-- The number that an argument stands for: one that is written, or that of a character behind a
quote. -/
def number (owner : Owner) (f : Formatting) (least most : Int) : Int × Formatting :=
  let (s, f) := f.take
  let blame := fun (byShell byProgram : String) =>
    f.blame (match owner with
      | .shell => s ++ ": " ++ byShell
      | .program => inQuotes s ++ ": " ++ byProgram)
  match s.toList with
  | '\'' :: c :: _ | '"' :: c :: _ => ((c.toNat : Int), f)
  | cs =>
    match Sum.integer? cs with
    | none =>
      if s == "" then (0, f)
      else (0, blame "expected numeric value" "expected a numeric value")
    | some (_, rest) =>
      let n := signed? cs
      if !rest.isEmpty then
        (n, blame "not completely converted" "value not completely converted")
      else if n < least || most < n then
        (max least (min n most), blame "Numerical result out of range"
          "Numerical result out of range")
      else (n, f)
where
  /-- The number without a bound. -/
  signed? (cs : List Char) : Int :=
    match cs.dropWhile Sum.isSpace with
    | '-' :: rest => -((Sum.natural? rest).map (fun p => (p.1 : Int))).getD 0
    | '+' :: rest => ((Sum.natural? rest).map (fun p => (p.1 : Int))).getD 0
    | rest => ((Sum.natural? rest).map (fun p => (p.1 : Int))).getD 0

/-- The number of a width or precision that stands in the format or is taken from an argument. -/
def size (owner : Owner) (f : Formatting) (cs : List Char) : Option Int × List Char × Formatting :=
  match cs with
  | '*' :: rest =>
    let (n, f) := f.number owner (-0x80000000) 0x7fffffff
    (some n, rest, f)
  | cs =>
    let digits := cs.takeWhile Char.isDigit
    let n := (String.ofList digits).toNat?.map (fun n => (n : Int))
    (n, cs.dropWhile Char.isDigit, f)

/-- Writes what a directive asks for. -/
def put (owner : Owner) (f : Formatting) (d : Directive) : Formatting :=
  let cut := fun (bytes : List UInt8) =>
    match d.precision with
    | some n => bytes.take n
    | none => bytes
  match d.conversion with
  | 's' =>
    let (s, f) := f.take
    f.add (d.pad (cut (Text.Utf8.encode s)))
  | 'b' =>
    let (s, f) := f.take
    let (bytes, ended) := unescaped s.toList
    { f.add (d.pad (cut bytes)) with ended }
  | 'c' =>
    let (s, f) := f.take
    let bytes := (Text.Utf8.encode s).take 1
    f.add (d.pad (if bytes.isEmpty && owner == .shell then [0] else bytes))
  | 'd' | 'i' =>
    let (n, f) := f.number owner (-0x8000000000000000) 0x7fffffffffffffff
    f.add (d.whole n)
  | 'u' | 'x' | 'X' | 'o' =>
    let (n, f) := f.number owner (-0x8000000000000000) 0xffffffffffffffff
    f.add (d.whole n)
  | 'f' | 'F' =>
    let (s, f) := f.take
    match Number.Decimal.read? s.toList with
    | some x => f.add (d.fraction x)
    | none =>
      let f := f.add (d.fraction .zero)
      if s == "" then f
      else
        f.blame (match owner with
          | .shell => s ++ ": expected numeric value"
          | .program => inQuotes s ++ ": expected a numeric value")
  | _ =>
    f.fail (String.ofList d.text ++ (match owner with
      | .shell => ": invalid directive"
      | .program => ": invalid conversion specification"))

/-- Reads the directive behind a percent sign and writes what it asks for. -/
def directive (owner : Owner) (f : Formatting) (cs : List Char) : Formatting × List Char :=
  let flags := cs.takeWhile fun c => ['#', '-', '+', ' ', '0'].contains c
  let rest := cs.dropWhile fun c => ['#', '-', '+', ' ', '0'].contains c
  let (width, rest, f) := f.size owner rest
  let (precision, rest, f) : Option Int × List Char × Formatting :=
    match rest with
    | '.' :: rest =>
      let (n, rest, f) := f.size owner rest
      (some (n.getD 0), rest, f)
    | rest => (none, rest, f)
  let text := '%' :: cs.take (cs.length - rest.length + 1)
  match rest with
  | [] =>
    (match owner with
      | .shell => f.fail "missing format character"
      | .program => f.fail "%: invalid conversion specification", [])
  | c :: rest =>
    let width := width.getD 0
    let d : Directive :=
      { left := flags.contains '-' || width < 0
        plus := flags.contains '+'
        space := flags.contains ' '
        marked := flags.contains '#'
        zero := flags.contains '0'
        width := width.natAbs
        precision := precision.bind fun n => if n < 0 then none else some n.toNat
        conversion := c
        text }
    (f.put owner d, rest)

/-- Passes over the format once. -/
def pass (owner : Owner) : Nat → List Char → Formatting → Formatting
  | 0, _, f => f
  | _ + 1, [], f => f
  | fuel + 1, c :: rest, f =>
    if f.failed || f.ended then f
    else if c == '%' then
      match rest with
      | '%' :: rest => pass owner fuel rest (f.add [37])
      | rest =>
        let (f, rest) := f.directive owner rest
        pass owner fuel rest f
    else if c == '\\' then
      match rest with
      | [] => f.add [92]
      | e :: _ =>
        let length := if '0' ≤ e && e ≤ '7' then rest.length - (octal 3 rest).2.length else 1
        pass owner fuel (rest.drop length)
          (f.add (unescape false (length + 2) ('\\' :: rest.take length)).1)
    else pass owner fuel rest (f.add (Text.Utf8.encode (String.singleton c)))

def passes (owner : Owner) (cs : List Char) : Nat → Formatting → Formatting
  | 0, f => f
  | fuel + 1, f =>
    let f := pass owner (cs.length + 1) cs { f with taken := false }
    if f.failed || f.ended || f.arguments.isEmpty || !f.taken then f else passes owner cs fuel f

end Formatting

/-- Writes its arguments in a format. Complaints come before all that is written. -/
def printf (owner : Owner) : Action := fun arguments m =>
  let operands :=
    match arguments with
    | "--" :: rest => rest
    | rest => rest
  let option? :=
    match owner, arguments.head?.map String.toList with
    | .shell, some ('-' :: c :: _) => if c == '-' then none else some c
    | _, _ => none
  match owner, option?, operands with
  | _, some c, _ => complaint owner "printf" m ("Illegal option -" ++ String.singleton c) 2
  | .shell, none, [] => complaint owner "printf" m "usage: printf format [arg ...]" 2
  | .program, none, [] =>
    complaint owner "printf" m "missing operand\nTry 'printf --help' for more information." 1
  | _, none, template :: rest =>
    let f := Formatting.passes owner template.toList (rest.length + 1)
      ⟨[], rest, false, [], false, false⟩
    let m := f.complaints.reverse.foldl (fun m s => complaint owner "printf" m s 1)
      (m.withStatus 0)
    match owner with
    | .program => emit "printf" 1 m f.bytes
    | .shell =>
      match m.write? 1 f.bytes with
      | none => complaint owner "printf" m "printf: I/O error" 1
      | some m => if f.failed then m.withStatus 2 else m

end DriverValidation.Shell.Utility
