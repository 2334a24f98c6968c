import Std.Data.ExtTreeMap

/-!
Reading typed fields from a document, whatever its notation. A notation says how its values are taken
as texts, truth values, whole numbers, lists and fields, which of them count as absent, and how
aliases are followed, of which only a limited number may be.
-/

namespace DriverValidation.Manifest

/-- Why a document has not the fields that are asked for. -/
inductive Fault where
  | tooManyAliases
  | unknownAlias
  | expected (what : String)
  deriving Repr, DecidableEq

def Fault.message : Fault → String
  | tooManyAliases => "repetition limit exceeded"
  | unknownAlias => "unknown anchor"
  | expected what => s!"expected {what}"

/-- A reading, which counts the aliases that may still be followed. -/
abbrev Reading (α : Type) := StateT Nat (Except Fault) α

/-- A reading that fails for want of something. -/
def missing {α : Type} (what : String) : Reading α := fun _ => .error (.expected what)

/-- Texts by their keys. -/
abbrev Labels := Std.ExtTreeMap String String

/-- How the values of a notation are read. All but `resolve` are asked about values that are no
aliases. -/
structure Source (ν : Type) where
  resolve : ν → Reading ν
  isAbsent : ν → Except Fault Bool
  text : ν → Except Fault String
  flag : ν → Except Fault Bool
  integer : ν → Except Fault Int
  items : ν → Except Fault (List ν)
  fields : ν → Except Fault (List (ν × ν))

namespace Source

variable {ν α : Type} (src : Source ν)

def readText (v : ν) : Reading String := do src.text (← src.resolve v)

def readFlag (v : ν) : Reading Bool := do src.flag (← src.resolve v)

def readInteger (v : ν) : Reading Int := do src.integer (← src.resolve v)

def readList (read : ν → Reading α) (v : ν) : Reading (List α) := do
  (← src.items (← src.resolve v)).mapM read

def readOptional (read : ν → Reading α) (v : ν) : Reading (Option α) := do
  let v ← src.resolve v
  if ← src.isAbsent v then return none else return some (← read v)

/-- Reads what has a default where it is absent. -/
def readOr (standard : α) (read : ν → Reading α) (v : ν) : Reading α := do
  return (← src.readOptional read v).getD standard

/-- Reads fields one after the other, each changing what was read so far. -/
def readFields (step : α → String → ν → Reading α) (start : α) (v : ν) : Reading α := do
  (← src.fields (← src.resolve v)).foldlM (fun a field => do
    step a (← src.readText field.1) field.2) start

/-- Reads texts by their keys; of two with one key the later one counts. -/
def readLabels (v : ν) : Reading Labels :=
  src.readFields (fun labels key value => do
    return labels.insert key (← src.readText value)) ∅ v

/-- Reads a text that has to be a given one. -/
def readExact (wanted : String) (v : ν) : Reading Unit := do
  if (← src.readText v) == wanted then return () else missing wanted

end Source

end DriverValidation.Manifest
