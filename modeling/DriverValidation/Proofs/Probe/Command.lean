import DriverValidation.Probe.Command

/-!
What the polls of a probe that runs a command come to while the token is not fired: without a command
it has failed at once, the first poll starts the command, and every poll of a command that runs tells
how far the command is.
-/

namespace DriverValidation

/-- What a command that is so far tells the one who waits for it; its end counts before its time. -/
def Progress.told (progress : Progress) (argv : List String) (limit : Duration) : Poll :=
  match progress.ended with
  | some c => .done (c.result argv)
  | none =>
    if progress.overdue then .done (.error (.timeout (Event.commandLine argv) limit.toText))
    else .pending

namespace Probe

variable {σ : Type} {commands : Commands σ} {argv : List String} {limit : Duration} {host : Host σ}

theorem watch_eq (log : List Event) : watch commands argv limit false host log =
    ⟨(commands.look host).1.told argv limit, false, (commands.look host).2, log⟩ := by
  rw [watch, if_neg Bool.false_ne_true]
  rcases commands.look host with ⟨⟨_ | c, overdue⟩, host'⟩
  · cases overdue <;> rfl
  · rfl

theorem ofCommand_of_empty (polls : Nat) (fired : Bool) : ofCommand commands [] limit polls fired host =
    ⟨.done (.error (.failed "no probe command configured")), false, host, []⟩ := rfl

theorem ofCommand_zero (hargv : argv ≠ []) (fired : Bool) :
    ofCommand commands argv limit 0 fired host =
      match commands.start argv limit host with
      | .error e =>
        ⟨.done (.error (.spawn (Event.commandLine argv) e.message)), false, host,
          [.probeStarted argv]⟩
      | .ok host => watch commands argv limit fired host [.probeStarted argv] := by
  cases argv with
  | nil => exact absurd rfl hargv
  | cons name operands => rfl

theorem ofCommand_of_refused (hargv : argv ≠ []) {e : IoError}
    (hstart : commands.start argv limit host = .error e) (fired : Bool) :
    ofCommand commands argv limit 0 fired host =
      ⟨.done (.error (.spawn (Event.commandLine argv) e.message)), false, host,
        [.probeStarted argv]⟩ := by
  rw [ofCommand_zero hargv, hstart]

theorem ofCommand_of_started (hargv : argv ≠ []) {host' : Host σ}
    (hstart : commands.start argv limit host = .ok host') :
    ofCommand commands argv limit 0 false host =
      ⟨(commands.look host').1.told argv limit, false, (commands.look host').2,
        [.probeStarted argv]⟩ := by
  rw [ofCommand_zero hargv, hstart]
  exact watch_eq _

theorem ofCommand_succ (hargv : argv ≠ []) (polls : Nat) :
    ofCommand commands argv limit (polls + 1) false host =
      ⟨(commands.look host).1.told argv limit, false, (commands.look host).2, []⟩ := by
  cases argv with
  | nil => exact absurd rfl hargv
  | cons name operands => exact watch_eq []

theorem log_watch (fired : Bool) (log : List Event) :
    (watch commands argv limit fired host log).log = log := by
  cases fired with
  | true => rfl
  | false => rw [watch_eq]

/-- A probe that runs a command logs that it starts it, and nothing else. -/
theorem eq_probeStarted_of_mem {polls : Nat} {fired : Bool} {e : Event}
    (he : e ∈ (ofCommand commands argv limit polls fired host).log) : e = .probeStarted argv := by
  by_cases hargv : argv = []
  · subst hargv
    cases he
  · cases polls with
    | zero =>
        rw [ofCommand_zero hargv] at he
        cases hstart : commands.start argv limit host with
        | error error =>
            rw [hstart] at he
            exact List.mem_singleton.mp he
        | ok host' =>
            rw [hstart] at he
            dsimp only at he
            rw [log_watch] at he
            exact List.mem_singleton.mp he
    | succ polls =>
        cases argv with
        | nil => exact absurd rfl hargv
        | cons name operands =>
            have hlog : (ofCommand commands (name :: operands) limit (polls + 1) fired host).log = [] :=
              log_watch fired []
            rw [hlog] at he
            cases he

end Probe

end DriverValidation
