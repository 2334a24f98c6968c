import DriverValidation.Proofs.Probe.Command
import DriverValidation.Proofs.Run.Simulation
import DriverValidation.Proofs.Text.Lenient
import DriverValidation.Proofs.Validation.Acts

/-!
What a probe that runs a command concludes when it runs by itself. Without a command, or with one
that cannot be started, it ends at once. Else it wakes up again and again until the token is fired,
the command has ended or its time is over. The first wake-up at which one of these has happened
decides, and of several that have happened by then they count in this order.
-/

namespace DriverValidation

open Text (Trimmed)
open Text.Utf8 (ReadAs)

/-- What a command says about its failure: what it wrote to its error output if that is any byte,
and to its output otherwise, read as characters and trimmed. -/
def Completion.Says (c : Completion) (details : String) : Prop :=
  ∃ cs, ReadAs (if c.stderr = [] then c.stdout else c.stderr) cs ∧ Trimmed cs details.toList

theorem Completion.says_iff {c : Completion} {details : String} :
    c.Says details ↔ details = c.details := by
  have hsource : (if c.stderr.isEmpty then c.stdout else c.stderr) =
      if c.stderr = [] then c.stdout else c.stderr := by
    cases c.stderr <;> rfl
  rw [Says, Completion.details, hsource, Text.trim, Text.Utf8.lenient, String.toList_ofList]
  constructor
  · rintro ⟨cs, hread, htrimmed⟩
    rw [Text.Utf8.lenientChars_eq_iff.mpr hread, Text.trimChars_eq_iff.mpr htrimmed,
      String.ofList_toList]
  · rintro rfl
    refine ⟨_, Text.Utf8.lenientChars_eq_iff.mp rfl, ?_⟩
    rw [String.toList_ofList]
    exact Text.trimChars_eq_iff.mp rfl

namespace Probe

variable {σ : Type} {env : Environment σ} {commands : Commands σ} {argv : List String}
  {limit : Duration} {probe : Probe σ} {patience polls : Nat} {s s' first : Situation σ}
  {r : ProbeResult}

/-! ## What decides -/

/-- How things stand at a wake-up while a command runs, before the command is looked at. -/
def wakeUp (env : Environment σ) (commands : Commands σ) (first : Situation σ) :
    Nat → Situation σ
  | 0 => first
  | n + 1 => wakeUp env commands ((first.withHost (commands.look first.host).2).look env) n

/-- Something has happened that ends the waiting for a command. -/
def Happened (commands : Commands σ) (s : Situation σ) : Prop :=
  s.fired = true ∨ (commands.look s.host).1.ended ≠ none ∨ (commands.look s.host).1.overdue = true

/-- The result of a probe that wakes up when something has happened, given whether the token is
fired and how far the command is. -/
inductive Decides (argv : List String) (limit : Duration) : Bool → Progress → ProbeResult → Prop
  | cancelled {progress : Progress} : Decides argv limit true progress (.error .cancelled)
  | timedOut : Decides argv limit false ⟨none, true⟩
      (.error (.timeout (Event.commandLine argv) limit.toText))
  | passed {c : Completion} {overdue : Bool} (hstatus : c.status = .code 0) :
      Decides argv limit false ⟨some c, overdue⟩ (.ok ())
  | exited {c : Completion} {overdue : Bool} {n : Int} {details : String}
      (hstatus : c.status = .code n) (hn : n ≠ 0) (hdetails : c.Says details) :
      Decides argv limit false ⟨some c, overdue⟩
        (.error (.exit (Event.commandLine argv) n details))
  | killed {c : Completion} {overdue : Bool} {signal : Nat} {details : String}
      (hstatus : c.status = .signal signal) (hdetails : c.Says details) :
      Decides argv limit false ⟨some c, overdue⟩
        (.error (.exit (Event.commandLine argv) (-1) details))

/-- What a probe concludes that runs a command by itself, from the situation before it starts. -/
inductive Concludes (env : Environment σ) (commands : Commands σ) (argv : List String)
    (limit : Duration) (s : Situation σ) : ProbeResult → Prop
  | noCommand (hargv : argv = []) :
      Concludes env commands argv limit s (.error (.failed "no probe command configured"))
  | notSpawned {e : IoError} (hargv : argv ≠ [])
      (hstart : commands.start argv limit (s.look env).host = .error e) :
      Concludes env commands argv limit s (.error (.spawn (Event.commandLine argv) e.message))
  | decided {host : Host σ} {first : Situation σ} {n : Nat} {r : ProbeResult} (hargv : argv ≠ [])
      (hstart : commands.start argv limit (s.look env).host = .ok host)
      (hfirst : first = ((s.look env).note [.probeStarted argv]).withHost host)
      (hbefore : ∀ m < n, ¬Happened commands (wakeUp env commands first m))
      (hdecides : Decides argv limit (wakeUp env commands first n).fired
        (commands.look (wakeUp env commands first n).host).1 r) :
      Concludes env commands argv limit s r

/-! ## Polls of a command that runs -/

def told (argv : List String) (limit : Duration) (fired : Bool) (progress : Progress) : Poll :=
  if fired then .done (.error .cancelled) else progress.told argv limit

theorem result_eq_iff {c : Completion} {overdue : Bool} :
    c.result argv = r ↔ Decides argv limit false ⟨some c, overdue⟩ r := by
  constructor
  · rintro rfl
    rw [Completion.result]
    cases hstatus : c.status with
    | code n =>
        by_cases hn : n = 0
        · subst hn
          exact .passed hstatus
        · have hcode : ¬(ExitStatus.code n == .code 0) = true := fun h =>
            hn (ExitStatus.code.inj (beq_iff_eq.mp h))
          rw [if_neg hcode]
          exact .exited hstatus hn (Completion.says_iff.mpr rfl)
    | signal signal => exact .killed hstatus (Completion.says_iff.mpr rfl)
  · intro hdecides
    cases hdecides with
    | passed hstatus =>
        rw [Completion.result, hstatus]
        rfl
    | exited hstatus hn hdetails =>
        have hcode : ¬(ExitStatus.code _ == .code 0) = true := fun h =>
          hn (ExitStatus.code.inj (beq_iff_eq.mp h))
        rw [Completion.result, hstatus, if_neg hcode, Completion.says_iff.mp hdetails]
        rfl
    | killed hstatus hdetails =>
        rw [Completion.result, hstatus, if_neg nofun, Completion.says_iff.mp hdetails]
        rfl

theorem told_eq_done_iff {fired : Bool} {progress : Progress} :
    told argv limit fired progress = .done r ↔ Decides argv limit fired progress r := by
  cases fired with
  | true =>
      constructor
      · intro htold
        obtain rfl := Poll.done.inj htold
        exact .cancelled
      · rintro ⟨⟩
        rfl
  | false =>
      rcases progress with ⟨_ | c, overdue⟩
      · cases overdue with
        | false => exact ⟨nofun, nofun⟩
        | true =>
            constructor
            · intro htold
              obtain rfl := Poll.done.inj htold
              exact .timedOut
            · rintro ⟨⟩
              rfl
      · have htold : told argv limit false ⟨some c, overdue⟩ = .done (c.result argv) := rfl
        rw [htold, Poll.done.injEq]
        exact result_eq_iff

theorem told_eq_pending_iff :
    told argv limit s.fired (commands.look s.host).1 = .pending ↔ ¬Happened commands s := by
  rw [Happened, told]
  rcases commands.look s.host with ⟨⟨_ | c, overdue⟩, host⟩
  · cases s.fired <;> cases overdue <;> simp [Progress.told]
  · cases s.fired <;> simp [Progress.told]

/-- A turn of a probe shows how things stand with the command that runs, in a situation in which the
command has not yet been looked at. -/
structure Shows (commands : Commands σ) (argv : List String) (limit : Duration)
    (s : Situation σ) (turn : Turn σ) (now : Situation σ) : Prop where
  poll : turn.poll = told argv limit now.fired (commands.look now.host).1
  after : ¬Happened commands now → s.after turn = now.withHost (commands.look now.host).2

theorem watch_eq_told (fired : Bool) (host : Host σ) (log : List Event) :
    (watch commands argv limit fired host log).poll =
      told argv limit fired (commands.look host).1 := by
  cases fired with
  | true => rfl
  | false =>
      rw [watch_eq]
      rfl

theorem shows_watch {host : Host σ} {log : List Event}
    (hfirst : first = (s.note log).withHost host) :
    Shows commands argv limit s (watch commands argv limit s.fired host log) first where
  poll := by
    subst hfirst
    exact watch_eq_told _ _ _
  after hquiet := by
    subst hfirst
    have hfired : s.fired = false := Bool.eq_false_iff.mpr fun h => hquiet (Or.inl h)
    rw [hfired, watch_eq, Situation.after_of_quiet]
    rfl

theorem shows_succ (hargv : argv ≠ []) (polls : Nat) (s : Situation σ) :
    Shows commands argv limit s (ofCommand commands argv limit (polls + 1) s.fired s.host) s := by
  cases argv with
  | nil => exact absurd rfl hargv
  | cons name operands => exact shows_watch (Situation.note_nil s).symm

/-! ## The run -/

theorem runAlone_of_done
    (hpoll : (probe polls (s.look env).fired (s.look env).host).poll = .done r) :
    probe.runAlone env (patience + 1) polls s =
      some (r, (s.look env).after (probe polls (s.look env).fired (s.look env).host)) := by
  simp only [runAlone, hpoll]

theorem runAlone_of_pending
    (hpoll : (probe polls (s.look env).fired (s.look env).host).poll = .pending) :
    probe.runAlone env (patience + 1) polls s = probe.runAlone env patience (polls + 1)
      ((s.look env).after (probe polls (s.look env).fired (s.look env).host)) := by
  simp only [runAlone, hpoll]

section Watching

variable
  (hnext : ∀ (polls : Nat) (s : Situation σ),
    Shows commands argv limit s (probe (polls + 1) s.fired s.host) s)
  (hshows : Shows commands argv limit (s.look env)
    (probe polls (s.look env).fired (s.look env).host) first)

include hnext hshows

/-- A run of a probe that shows how its command is ends as the first wake-up decides at which
something has happened. -/
theorem exists_decides_of_runAlone (hrun : probe.runAlone env patience polls s = some (r, s')) :
    ∃ n, (∀ m < n, ¬Happened commands (wakeUp env commands first m)) ∧
      Decides argv limit (wakeUp env commands first n).fired
        (commands.look (wakeUp env commands first n).host).1 r := by
  induction patience generalizing polls s first with
  | zero => cases hrun
  | succ patience ih =>
      cases hpoll : (probe polls (s.look env).fired (s.look env).host).poll with
      | done r' =>
          rw [runAlone_of_done hpoll] at hrun
          obtain ⟨rfl, -⟩ := Prod.mk.inj (Option.some.inj hrun)
          exact ⟨0, nofun, told_eq_done_iff.mp (hshows.poll.symm.trans hpoll)⟩
      | pending =>
          have hquiet := told_eq_pending_iff.mp (hshows.poll.symm.trans hpoll)
          rw [runAlone_of_pending hpoll, hshows.after hquiet] at hrun
          obtain ⟨n, hbefore, hdecides⟩ := ih (hnext polls _) hrun
          refine ⟨n + 1, fun m hm => ?_, hdecides⟩
          cases m with
          | zero => exact hquiet
          | succ m => exact hbefore m (Nat.lt_of_succ_lt_succ hm)

/-- A wake-up that decides ends the run, if nothing has happened at those before it. -/
theorem runAlone_of_decides {n : Nat}
    (hbefore : ∀ m < n, ¬Happened commands (wakeUp env commands first m))
    (hdecides : Decides argv limit (wakeUp env commands first n).fired
      (commands.look (wakeUp env commands first n).host).1 r) :
    ∃ s', probe.runAlone env (n + 1) polls s = some (r, s') := by
  induction n generalizing polls s first with
  | zero => exact ⟨_, runAlone_of_done (hshows.poll.trans (told_eq_done_iff.mpr hdecides))⟩
  | succ n ih =>
      have hquiet := hbefore 0 (Nat.succ_pos n)
      rw [runAlone_of_pending (hshows.poll.trans (told_eq_pending_iff.mpr hquiet)),
        hshows.after hquiet]
      exact ih (hnext polls _) (fun m hm => hbefore (m + 1) (Nat.succ_lt_succ hm)) hdecides

end Watching

theorem shows_zero {host : Host σ} (hargv : argv ≠ [])
    (hstart : commands.start argv limit s.host = .ok host) :
    Shows commands argv limit s (ofCommand commands argv limit 0 s.fired s.host)
      ((s.note [.probeStarted argv]).withHost host) := by
  rw [ofCommand_zero hargv, hstart]
  exact shows_watch rfl

theorem concludes_of_runAlone
    (hrun : (ofCommand commands argv limit).runAlone env patience 0 s = some (r, s')) :
    Concludes env commands argv limit s r := by
  cases patience with
  | zero => cases hrun
  | succ patience =>
      by_cases hargv : argv = []
      · subst hargv
        rw [runAlone_of_done rfl] at hrun
        obtain ⟨rfl, -⟩ := Prod.mk.inj (Option.some.inj hrun)
        exact .noCommand rfl
      · cases hstart : commands.start argv limit (s.look env).host with
        | error e =>
            have hturn := ofCommand_of_refused hargv hstart (s.look env).fired
            rw [runAlone_of_done (congrArg Turn.poll hturn)] at hrun
            obtain ⟨rfl, -⟩ := Prod.mk.inj (Option.some.inj hrun)
            exact .notSpawned hargv hstart
        | ok host =>
            obtain ⟨n, hbefore, hdecides⟩ :=
              exists_decides_of_runAlone (shows_succ hargv) (shows_zero hargv hstart) hrun
            exact .decided hargv hstart rfl hbefore hdecides

theorem Concludes.exists_runAlone (hconcludes : Concludes env commands argv limit s r) :
    ∃ patience s', (ofCommand commands argv limit).runAlone env patience 0 s = some (r, s') := by
  cases hconcludes with
  | noCommand hargv =>
      subst hargv
      exact ⟨1, _, runAlone_of_done rfl⟩
  | notSpawned hargv hstart =>
      have hturn := ofCommand_of_refused hargv hstart (s.look env).fired
      exact ⟨1, _, runAlone_of_done (congrArg Turn.poll hturn)⟩
  | @decided host first n _ hargv hstart hfirst hbefore hdecides =>
      subst hfirst
      obtain ⟨s', hrun⟩ :=
        runAlone_of_decides (shows_succ hargv) (shows_zero hargv hstart) hbefore hdecides
      exact ⟨n + 1, s', hrun⟩

/-- While the token is not fired, a probe that is waited for has the result that it has alone. -/
theorem runAlone_of_await (hawait : probe.await env patience polls s = some (r, s'))
    (hfired : s'.fired = false) : probe.runAlone env patience polls s = some (r, s') := by
  induction patience generalizing polls s with
  | zero => cases hawait
  | succ patience ih =>
      rcases await_cases hawait with ⟨hlook, -, rfl⟩ | ⟨hlook, hpoll, rfl⟩ | ⟨hlook, hpoll, hrest⟩
      · rw [hlook] at hfired
        cases hfired
      · rw [← hlook] at hpoll ⊢
        exact runAlone_of_done hpoll
      · rw [← hlook] at hpoll hrest
        rw [runAlone_of_pending hpoll]
        exact ih hrest

/-- So a validation that the token does not end learns of a command what a probe concludes alone. -/
theorem concludes_of_await
    (hawait : (ofCommand commands argv limit).await env patience 0 s = some (r, s'))
    (hfired : s'.fired = false) : Concludes env commands argv limit s r :=
  concludes_of_runAlone (runAlone_of_await hawait hfired)

/-! ## The conclusion -/

/-- A wake-up that decides is one at which something has happened. -/
theorem Decides.happened
    (hdecides : Decides argv limit s.fired (commands.look s.host).1 r) : Happened commands s := by
  have htold := told_eq_done_iff.mpr hdecides
  by_cases hhappened : Happened commands s
  · exact hhappened
  · rw [told_eq_pending_iff.mpr hhappened] at htold
    cases htold

theorem Decides.eq {fired : Bool} {progress : Progress} {r₂ : ProbeResult}
    (hdecides : Decides argv limit fired progress r)
    (hdecides₂ : Decides argv limit fired progress r₂) : r = r₂ := by
  have htold := told_eq_done_iff.mpr hdecides
  rw [told_eq_done_iff.mpr hdecides₂] at htold
  exact (Poll.done.inj htold).symm

/-- A probe that runs a command concludes one thing only. -/
theorem Concludes.eq {r₂ : ProbeResult} (hconcludes : Concludes env commands argv limit s r)
    (hconcludes₂ : Concludes env commands argv limit s r₂) : r = r₂ := by
  cases hconcludes with
  | noCommand hargv =>
      cases hconcludes₂ with
      | noCommand _ => rfl
      | notSpawned hsome _ | decided hsome _ _ _ _ => exact absurd hargv hsome
  | notSpawned hargv hstart =>
      cases hconcludes₂ with
      | noCommand hnone => exact absurd hnone hargv
      | notSpawned _ hstart₂ =>
          rw [hstart] at hstart₂
          rw [Except.error.inj hstart₂]
      | decided _ hstart₂ _ _ _ =>
          rw [hstart] at hstart₂
          cases hstart₂
  | @decided host first n _ hargv hstart hfirst hbefore hdecides =>
      cases hconcludes₂ with
      | noCommand hnone => exact absurd hnone hargv
      | notSpawned _ hstart₂ =>
          rw [hstart] at hstart₂
          cases hstart₂
      | @decided host₂ first₂ n₂ _ _ hstart₂ hfirst₂ hbefore₂ hdecides₂ =>
          rw [hstart] at hstart₂
          obtain rfl := Except.ok.inj hstart₂
          obtain rfl : first = first₂ := hfirst.trans hfirst₂.symm
          -- of two wake-ups that decide, the earlier one rules the later one out
          obtain rfl : n = n₂ := Nat.le_antisymm
            (Nat.le_of_not_lt fun hlt => hbefore n₂ hlt hdecides₂.happened)
            (Nat.le_of_not_lt fun hlt => hbefore₂ n hlt hdecides.happened)
          exact hdecides.eq hdecides₂

/-- A probe that runs a command by itself comes to an end exactly with the one result that it
concludes from the command, the end and the time of it, and the token. -/
theorem runAlone_iff (env : Environment σ) (commands : Commands σ) (argv : List String)
    (limit : Duration) (s : Situation σ) (r : ProbeResult) :
    (∃ patience s', (ofCommand commands argv limit).runAlone env patience 0 s = some (r, s')) ↔
      Concludes env commands argv limit s r ∧
        ∀ r₂, Concludes env commands argv limit s r₂ → r₂ = r := by
  constructor
  · rintro ⟨patience, s', hrun⟩
    have hconcludes := concludes_of_runAlone hrun
    exact ⟨hconcludes, fun r₂ hconcludes₂ => hconcludes₂.eq hconcludes⟩
  · rintro ⟨hconcludes, -⟩
    exact hconcludes.exists_runAlone

end Probe

end DriverValidation
