import DriverValidation.Config
import DriverValidation.Duration.Reader
import DriverValidation.Toml.Document

/-!
Reading settings from a configuration document. A key that is absent leaves its default, a key that
is not known has no effect, and one that is known must have a value of its kind.
-/

namespace DriverValidation.Config

open ProbeCommands (standardGdrcopy standardNvidiaFs standardNvidiaPeermem)

/-- Why a document gives no settings. -/
inductive Fault where
  | document (e : Toml.Error)
  | wrongKind (key : String)
  | badTimeout (fault : Duration.Fault)
  deriving Repr, DecidableEq

def Fault.message : Fault → String
  | document e => e.message
  | wrongKind key => s!"invalid type for {key}"
  | badTimeout _ => "invalid duration"

def textOf (key : String) : Toml.Value → Except Fault String
  | .text s => .ok s
  | _ => .error (.wrongKind key)

def durationOf (key : String) : Toml.Value → Except Fault Duration
  | .text s => (Duration.ofText s).mapError .badTimeout
  | _ => .error (.wrongKind key)

/-- A program and its arguments. -/
def commandOf (key : String) : Toml.Value → Except Fault (List String)
  | .array items => items.mapM (textOf key)
  | _ => .error (.wrongKind key)

/-- The value behind a key, read by `read`, or the default where the key is absent. -/
def entry {α : Type} (t : Toml.Table) (key : String) (standard : α)
    (read : String → Toml.Value → Except Fault α) : Except Fault α :=
  match t.lookup key with
  | some v => read key v
  | none => .ok standard

/-- The item at a position, read by `read`, or the default behind the last item. -/
def item {α : Type} (items : List Toml.Value) (position : Nat) (key : String) (standard : α)
    (read : String → Toml.Value → Except Fault α) : Except Fault α :=
  match items[position]? with
  | some v => read key v
  | none => .ok standard

/-- The probe commands: a table, or an array with the commands in the order of their features. A point
in time counts as an empty table. -/
def probesOf (key : String) : Toml.Value → Except Fault ProbeCommands
  | .table t => do
    return {
      gdrcopy := ← entry t "gdrcopy" standardGdrcopy commandOf
      nvidiaFs := ← entry t "nvidia-fs" standardNvidiaFs commandOf
      nvidiaPeermem := ← entry t "nvidia-peermem" standardNvidiaPeermem commandOf }
  | .array items => do
    return {
      gdrcopy := ← item items 0 "gdrcopy" standardGdrcopy commandOf
      nvidiaFs := ← item items 1 "nvidia-fs" standardNvidiaFs commandOf
      nvidiaPeermem := ← item items 2 "nvidia-peermem" standardNvidiaPeermem commandOf }
  | .time _ => .ok ⟨standardGdrcopy, standardNvidiaFs, standardNvidiaPeermem⟩
  | _ => .error (.wrongKind key)

def ofTable (t : Toml.Table) : Except Fault Config := do
  return {
    statusFile := ← entry t "status-file" standardStatusFile textOf
    outputDir := ← entry t "output-dir" standardOutputDir textOf
    probeTimeout := ← entry t "probe-timeout" standardTimeout durationOf
    probes := ← entry t "probes" .standard probesOf }

def ofText (s : String) : Except Fault Config :=
  match Toml.Document.read s with
  | .ok t => ofTable t
  | .error e => .error (.document e)

end DriverValidation.Config
