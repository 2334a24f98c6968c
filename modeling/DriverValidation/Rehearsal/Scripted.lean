import DriverValidation.Rehearsal

/-!
Scripted probes: each call is recorded, the token is fired where the script says so, and the result
is the one that the script gives.
-/

namespace DriverValidation.Rehearsal

/-- How long a scripted probe waits before it gives its result. -/
inductive Waiting where
  | none
  | once
  | always
  deriving Repr, DecidableEq

/-- The script of a probe: its result, whether it fires the token before and after it waits, and how
long it waits. -/
structure Script where
  result : ProbeResult
  firesBefore : Bool
  firesAfter : Bool
  waiting : Waiting

def recordCall (h : Host Rehearsal) (f : Feature) : Host Rehearsal :=
  { h with state := { h.state with calls := f :: h.state.calls } }

def Script.probe (script : Script) (f : Feature) : Probe Rehearsal := fun polls _ h =>
  let first := polls == 0
  let h := if first then recordCall h f else h
  let before := first && script.firesBefore
  let waits :=
    match script.waiting with
    | .none => false
    | .once => first
    | .always => true
  if waits then ⟨.pending, before, h, []⟩
  else ⟨.done script.result, before || script.firesAfter, h, []⟩

end DriverValidation.Rehearsal
