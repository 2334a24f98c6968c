/-!
The options of programs: letters behind a hyphen, some of which take an argument, and long names behind
two hyphens. They may stand behind operands.
-/

namespace DriverValidation.Shell.Utility

/-- The options that a program knows: whether a letter takes an argument, and the letters that long
names stand for. -/
structure KnownOptions where
  argument? : Char → Option Bool
  long : List (String × Char)

/-- The options and the operands that were given. -/
structure GivenOptions where
  options : List (Char × String)
  operands : List String
  deriving Repr, DecidableEq

namespace GivenOptions

def addOption (g : GivenOptions) (c : Char) (argument : String) : GivenOptions :=
  { g with options := (c, argument) :: g.options }

def addOperand (g : GivenOptions) (s : String) : GivenOptions :=
  { g with operands := s :: g.operands }

def none : GivenOptions := ⟨[], []⟩

def has (g : GivenOptions) (c : Char) : Bool := g.options.any (·.1 == c)

end GivenOptions

namespace KnownOptions

/-- Options without arguments. -/
def letters (known : String) : KnownOptions :=
  ⟨fun c => if known.toList.contains c then some false else none, []⟩

/-- Reads the letters of one argument, before which stand the options of the arguments behind it. -/
def readLetters (known : KnownOptions) (rest : List String)
    (behind : List String → Except String GivenOptions) : List Char → Except String GivenOptions
  | [] => behind rest
  | c :: cs =>
    match known.argument? c with
    | none => .error ("invalid option -- '" ++ String.singleton c ++ "'")
    | some false => (readLetters known rest behind cs).map (·.addOption c "")
    | some true =>
      if cs.isEmpty then
        match rest with
        | [] => .error ("option requires an argument -- '" ++ String.singleton c ++ "'")
        | argument :: rest => (behind rest).map (·.addOption c argument)
      else (behind rest).map (·.addOption c (String.ofList cs))

/-- Tells options and operands of arguments apart. -/
def read (known : KnownOptions) : Nat → List String → Except String GivenOptions
  | 0, _ => .ok .none
  | _ + 1, [] => .ok .none
  | fuel + 1, s :: rest =>
    match s.toList with
    | ['-', '-'] => .ok ⟨[], rest⟩
    | '-' :: '-' :: cs =>
      let name := String.ofList (cs.takeWhile (· != '='))
      let value := (cs.dropWhile (· != '=')).tail
      match known.long.lookup name with
      | none => .error ("unrecognized option '" ++ s ++ "'")
      | some c =>
        if known.argument? c != some true then (read known fuel rest).map (·.addOption c "")
        else if cs.contains '=' then
          (read known fuel rest).map (·.addOption c (String.ofList value))
        else
          match rest with
          | [] => .error ("option '--" ++ name ++ "' requires an argument")
          | argument :: rest => (read known fuel rest).map (·.addOption c argument)
    | '-' :: c :: cs => readLetters known rest (read known fuel) (c :: cs)
    | _ => (read known fuel rest).map (·.addOperand s)

/-- The options and operands of arguments, or the complaint about them. -/
def given (known : KnownOptions) (arguments : List String) : Except String GivenOptions :=
  read known (arguments.length + 1) arguments

end KnownOptions

end DriverValidation.Shell.Utility
