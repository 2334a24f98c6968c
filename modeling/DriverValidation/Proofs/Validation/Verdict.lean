import DriverValidation.Proofs.Validation.Cancellation
import Mathlib.Data.List.Nodup

/-!
The verdict of a validation whose token is never fired and whose probes all come to a result. Waiting
longer changes neither the acts nor the result of a run that came to an end, so the verdict is told
without a bound on the wake-ups: every enabled feature has one turn, in order, and exactly the failures
that its own probe told are reported.
-/

namespace DriverValidation

/-- The environment does not fire the token. -/
def Environment.NeverFires {σ : Type} (env : Environment σ) : Prop :=
  ∀ looks host, (env looks host).1 = false

namespace Probe

variable {σ : Type} {env : Environment σ} {probe : Probe σ} {patience patience' polls : Nat}
  {s s' : Situation σ} {result : ProbeResult}

/-- A probe that has a result has the same one when it is waited for longer. -/
theorem await_mono (f : Feature) (hle : patience ≤ patience')
    (hawait : probe.await env patience polls s = some (result, s')) :
    probe.await env patience' polls s = some (result, s') ∧
      probe.acts env f patience' polls s = probe.acts env f patience polls s := by
  induction patience generalizing patience' polls s with
  | zero => cases hawait
  | succ patience ih =>
      obtain ⟨patience', rfl⟩ : ∃ n, patience' = n + 1 := ⟨patience' - 1, by omega⟩
      rcases await_cases hawait with ⟨hfired, rfl, rfl⟩ | ⟨hfired, hpoll, rfl⟩ |
        ⟨hfired, hpoll, hrest⟩
      · exact ⟨await_of_fired hfired, (acts_of_fired f hfired).trans (acts_of_fired f hfired).symm⟩
      · exact ⟨await_of_done hfired hpoll,
          (acts_of_done f hfired hpoll).trans (acts_of_done f hfired hpoll).symm⟩
      · obtain ⟨hrest', hacts⟩ := ih (Nat.le_of_succ_le_succ hle) hrest
        rw [await_of_pending hfired hpoll, acts_of_pending f hfired hpoll,
          acts_of_pending f hfired hpoll, hacts]
        exact ⟨hrest', rfl⟩

/-- A probe does not fire the token unless it finds it fired. -/
def NeverFires (probe : Probe σ) : Prop := ∀ polls host, (probe polls false host).fires = false

/-- A probe comes to a result other than its cancellation whenever it is entered while the token is
not fired, and it does not fire the token. -/
structure Completes (env : Environment σ) (probe : Probe σ) : Prop where
  never_fires : probe.NeverFires
  has_result : ∀ s : Situation σ, s.fired = false →
    ∃ patience result s', probe.await env patience 0 s = some (result, s') ∧
      result ≠ .error .cancelled

theorem look_fired (henv : env.NeverFires) (hs : s.fired = false) : (s.look env).fired = false := by
  change (s.fired || (env s.looks s.host).1) = false
  rw [hs, henv, Bool.or_false]

theorem await_fired (henv : env.NeverFires) (hprobe : probe.NeverFires) (hs : s.fired = false)
    (hawait : probe.await env patience polls s = some (result, s')) : s'.fired = false := by
  induction patience generalizing polls s with
  | zero => cases hawait
  | succ patience ih =>
      have hlook : (s.look env).fired = false := look_fired henv hs
      have hafter : ((s.look env).after (probe polls false (s.look env).host)).fired = false := by
        change ((s.look env).fired || (probe polls false (s.look env).host).fires) = false
        rw [hlook, hprobe, Bool.or_false]
      rcases await_cases hawait with ⟨hfired, -, -⟩ | ⟨-, -, rfl⟩ | ⟨-, -, hrest⟩
      · rw [hlook] at hfired
        cases hfired
      · exact hafter
      · exact ih hafter hrest

end Probe

namespace Validation

variable {σ : Type} {env : Environment σ} {patience patience' : Nat} {probes : Feature → Probe σ}
  {fs : List Feature} {failures : List FeatureFailure} {s s' : Situation σ} {r : Result}

theorem probeAll_mono (hle : patience ≤ patience')
    (hrun : probeAll env patience probes fs failures s = some (r, s')) :
    probeAll env patience' probes fs failures s = some (r, s') ∧
      actsOn env patience' probes fs s = actsOn env patience probes fs s := by
  induction fs generalizing failures s with
  | nil => exact ⟨hrun, rfl⟩
  | cons f fs ih =>
      rcases probeAll_cons_cases hrun with ⟨hfired, rfl, rfl⟩ | ⟨hfired, rfl, hawait⟩ |
        ⟨result, s₁, hfired, hresult, hawait, hrest⟩
      · rw [actsOn_cons_of_fired hfired, actsOn_cons_of_fired hfired]
        exact ⟨probeAll_cons_of_fired hfired, rfl⟩
      · obtain ⟨hawait', hacts⟩ := Probe.await_mono f hle hawait
        rw [actsOn_cons_of_cancelled hfired hawait, actsOn_cons_of_cancelled hfired hawait', hacts]
        exact ⟨probeAll_cons_of_cancelled hfired hawait', rfl⟩
      · obtain ⟨hawait', hacts⟩ := Probe.await_mono f hle hawait
        obtain ⟨hrest', hrests⟩ := ih hrest
        rw [actsOn_cons_of_answer hfired hawait hresult, actsOn_cons_of_answer hfired hawait' hresult,
          hacts, hrests, probeAll_cons_of_answer hfired hawait' hresult]
        exact ⟨hrest', rfl⟩

/-- Probes that all come to a result let the validation come to a verdict. -/
theorem probeAll_completes (henv : env.NeverFires) (hs : s.fired = false)
    (hprobes : ∀ f ∈ fs, (probes f).Completes env) (failures : List FeatureFailure) :
    ∃ patience r s', probeAll env patience probes fs failures s = some (r, s') ∧
      r ≠ .error .cancelled := by
  induction fs generalizing failures s with
  | nil => exact ⟨0, verdict failures, s, rfl, verdict_ne_cancelled failures⟩
  | cons f fs ih =>
      obtain ⟨hf, hfs⟩ := List.forall_mem_cons.mp hprobes
      have hlook : (s.look env).fired = false := Probe.look_fired henv hs
      obtain ⟨patience, result, s₁, hawait, hresult⟩ := hf.has_result (s.look env) hlook
      have hs₁ : s₁.fired = false := Probe.await_fired henv hf.never_fires hlook hawait
      obtain ⟨more, r, s', hrest, hr⟩ := ih (s := s₁.note [eventOf f result]) hs₁ hfs
        (failures ++ failuresOf f result)
      refine ⟨max patience more, r, s', ?_, hr⟩
      rw [probeAll_cons_of_answer hlook
        (Probe.await_mono f (Nat.le_max_left patience more) hawait).1 hresult]
      exact (probeAll_mono (Nat.le_max_right patience more) hrest).1

theorem run_mono {statusFile : String} (hle : patience ≤ patience')
    (hrun : run env patience probes statusFile s = some (r, s')) :
    run env patience' probes statusFile s = some (r, s') ∧
      acts env patience' probes statusFile s = acts env patience probes statusFile s := by
  cases hload : FeatureStatus.load s.host.tree statusFile with
  | error e =>
      simp only [run, hload] at hrun
      simp only [run, acts, hload]
      exact ⟨hrun, trivial⟩
  | ok status =>
      simp only [run, hload] at hrun
      simp only [run, acts, hload]
      by_cases hempty : status.enabled.isEmpty = true
      · rw [if_pos hempty] at hrun ⊢
        rw [List.isEmpty_iff.mp hempty]
        exact ⟨hrun, rfl⟩
      · rw [if_neg hempty] at hrun ⊢
        exact probeAll_mono hle hrun

theorem run_completes {statusFile : String} {status : FeatureStatus}
    (hload : FeatureStatus.load s.host.tree statusFile = .ok status) (hs : s.fired = false)
    (henv : env.NeverFires) (hprobes : ∀ f ∈ status.enabled, (probes f).Completes env) :
    ∃ patience r s', run env patience probes statusFile s = some (r, s') ∧
      r ≠ .error .cancelled := by
  by_cases hempty : status.enabled.isEmpty = true
  · refine ⟨0, .ok (), (s.note [status.loadedEvent statusFile]).note [.nothingEnabled statusFile],
      ?_, fun hcancelled => by cases hcancelled⟩
    simp only [run, hload, if_pos hempty]
  · obtain ⟨patience, r, s', hall, hr⟩ :=
      probeAll_completes (s := s.note [status.loadedEvent statusFile]) henv hs hprobes []
    refine ⟨patience, r, s', ?_, hr⟩
    simp only [run, hload, if_neg hempty]
    exact hall

/-- What the answers of the probes of a status and the result of its validation have to do with each
other. -/
structure Verdict (status : FeatureStatus) (answers : List Answer) (r : Result) : Prop where
  /-- The features are in their fixed order, each at most once. -/
  in_order : (answers.map (·.feature)).Sublist [.gdrcopy, .gds, .gpuDirectRdma]
  /-- They are those whose flag is set. -/
  enabled_iff : ∀ f, f ∈ answers.map (·.feature) ↔ status.get? f.statusKey = some (.boolean true)
  /-- The validation succeeds exactly when all probes passed. -/
  ok_iff : r = .ok () ↔ ∀ a ∈ answers, a.result = .ok ()
  /-- Else it reports the failures of the probes, each with its feature, in order. -/
  failures_eq : r ≠ .ok () → r = .error (.featureValidation
    (answers.flatMap fun a => failuresOf a.feature a.result))

/-- Probes that all come to a result are entered once each, one after the other, for exactly the
features that were enabled when the status was read, and their failures are the verdict. What the
probes do to the status file meanwhile changes nothing. The turns of the features are all that the
environment and the probes would write down. -/
theorem run_verdict {statusFile : String} {status : FeatureStatus}
    (hload : FeatureStatus.load s.host.tree statusFile = .ok status) (hs : s.fired = false)
    (henv : env.NeverFires) (hprobes : ∀ f ∈ status.enabled, (probes f).Completes env) :
    ∃ (answers : List Answer) (r : Result) (s' : Situation σ) (enough : Nat),
      Verdict status answers r ∧ ∀ patience, enough ≤ patience →
        run env patience probes statusFile s = some (r, s') ∧
        acts env patience probes statusFile s = answers.flatMap Answer.acts ∧
        run env.writingDiary patience (fun f => (probes f).writingDiary f) statusFile
            (s.withDiary []) =
          some (r, s'.withDiary ((answers.flatMap Answer.acts).map Act.entry)) := by
  obtain ⟨enough, r, s', hrun, hr⟩ := run_completes hload hs henv hprobes
  have hcourse := course_of_run hload hrun
  obtain ⟨answers, hfs, hacts, hok, hfailed⟩ := hcourse.all_answered
    fun a ha hcancels => hr (hcourse.cancelled_iff.mpr ⟨a, ha, hcancels⟩)
  refine ⟨answers, r, s', enough, ⟨?_, ?_, hok, hfailed⟩, ?_⟩
  · rw [hfs]
    exact status.enabled_sublist
  · intro f
    rw [hfs, status.mem_enabled_iff]
  · intro patience hle
    obtain ⟨hrun', hacts'⟩ := run_mono hle hrun
    have hall := hacts'.trans hacts
    have hdiary := run_withDiary_nil hrun'
    rw [hall] at hdiary
    exact ⟨hrun', hall, hdiary⟩

/-! ## Polls and the result -/

theorem done_not_mem_waiting (f g : Feature) (polls start n : Nat) (result : ProbeResult) :
    Act.poll f polls (.done result) ∉ Act.waiting g start n := by
  induction n generalizing start with
  | zero => exact List.not_mem_nil
  | succ n ih => simp [Act.waiting, ih]

theorem Answer.done_mem_acts_iff {a : Answer} {f : Feature} {polls : Nat} {result : ProbeResult} :
    Act.poll f polls (.done result) ∈ a.acts ↔
      f = a.feature ∧ polls = a.waits ∧ result = a.result := by
  simp [Answer.acts, done_not_mem_waiting]

theorem BrokenOff.result_of_done {f g : Feature} {last : List Act} {polls : Nat}
    {result : ProbeResult} (hlast : BrokenOff g last)
    (hdone : Act.poll f polls (.done result) ∈ last) : result = .error .cancelled := by
  cases hlast with
  | atTurn => simp at hdone
  | atWakeUp n => simp [done_not_mem_waiting] at hdone
  | byProbe n =>
      simp only [List.mem_cons, reduceCtorEq, List.mem_append, done_not_mem_waiting, false_or,
        Act.poll.injEq, Poll.done.injEq, List.not_mem_nil, or_false] at hdone
      exact hdone.2.2

/-- What the polls of a validation have to do with its result: it succeeds if each enabled feature has a
probe that tells so, and does not if any tells of a failure. -/
structure Tally (enabled : List Feature) (acts : List Act) (r : Result) : Prop where
  ok_iff : r = .ok () ↔ ∀ f ∈ enabled, ∃ polls, Act.poll f polls (.done (.ok ())) ∈ acts
  failed : ∀ f polls e, Act.poll f polls (.done (.error e)) ∈ acts → ∃ error, r = .error error

/-- All that decides a validation of distinct features is what their probes tell. -/
theorem Course.tally {fs : List Feature} {acts : List Act} {r : Result}
    (hcourse : Course fs [] acts r) (hdistinct : fs.Nodup) : Tally fs acts r := by
  obtain ⟨as, -, ⟨rfl, rfl, rfl⟩ | ⟨f, rest, last, rfl, hlast, rfl, rfl⟩⟩ := hcourse.answers
  · have hpassed : verdict ([] ++ as.flatMap fun a => failuresOf a.feature a.result) = .ok () ↔
        ∀ a ∈ as, a.result = .ok () := by
      rw [List.nil_append, verdict_eq_ok_iff, List.flatMap_eq_nil_iff]
      simp only [failuresOf_eq_nil_iff]
    have hdone : ∀ {f polls result}, Act.poll f polls (.done result) ∈ as.flatMap Answer.acts →
        ∃ a ∈ as, f = a.feature ∧ result = a.result := by
      intro f polls result hmem
      obtain ⟨a, ha, hpoll⟩ := List.mem_flatMap.mp hmem
      obtain ⟨hf, -, hresult⟩ := Answer.done_mem_acts_iff.mp hpoll
      exact ⟨a, ha, hf, hresult⟩
    refine ⟨hpassed.trans ⟨fun hall f hf => ?_, fun hall a ha => ?_⟩, fun f polls e hmem => ?_⟩
    · obtain ⟨a, ha, rfl⟩ := List.mem_map.mp hf
      exact ⟨a.waits, List.mem_flatMap.mpr
        ⟨a, ha, Answer.done_mem_acts_iff.mpr ⟨rfl, rfl, (hall a ha).symm⟩⟩⟩
    · obtain ⟨polls, hmem⟩ := hall a.feature (List.mem_map_of_mem ha)
      obtain ⟨b, hb, hfeature, hresult⟩ := hdone hmem
      rw [List.inj_on_of_nodup_map hdistinct ha hb hfeature]
      exact hresult.symm
    · obtain ⟨a, ha, -, hresult⟩ := hdone hmem
      refine ⟨_, verdict_of_ne_ok fun hok => ?_⟩
      cases hresult.trans (hpassed.mp hok a ha)
  · refine ⟨⟨nofun, fun hall => ?_⟩, fun _ _ _ _ => ⟨_, rfl⟩⟩
    -- the feature whose turn was broken off has no probe that tells so
    obtain ⟨polls, hmem⟩ := hall f (by simp)
    rcases List.mem_append.mp hmem with hmem | hmem
    · obtain ⟨a, ha, hpoll⟩ := List.mem_flatMap.mp hmem
      obtain ⟨rfl, -, -⟩ := Answer.done_mem_acts_iff.mp hpoll
      exact absurd rfl ((List.nodup_append.mp hdistinct).2.2 _ (List.mem_map_of_mem ha) _
        List.mem_cons_self)
    · cases hlast.result_of_done hmem

/-- Probes of which the first removes all files and fails, the second passes at its second poll, and
the third fails. -/
def failPassFail : Feature → Probe Unit
  | .gdrcopy => fun _ _ _ =>
    ⟨.done (.error (.failed "gdrdrv is not loaded")), false, ⟨Files.Tree.empty, ()⟩, []⟩
  | .gds => fun polls _ host =>
    ⟨if polls = 0 then .pending else .done (.ok ()), false, host, []⟩
  | .gpuDirectRdma => fun _ _ host =>
    ⟨.done (.error (.failed "nvidia_peermem is not loaded")), false, host, []⟩

theorem failPassFail_completes (f : Feature) : (failPassFail f).Completes .quiet := by
  refine ⟨by cases f <;> exact fun _ _ => rfl, ?_⟩
  rintro ⟨host, fired, looks, log⟩ (rfl : fired = false)
  cases f with
  | gdrcopy => exact ⟨1, .error (.failed "gdrdrv is not loaded"), _, rfl, by simp⟩
  | gds => exact ⟨2, .ok (), _, rfl, by simp⟩
  | gpuDirectRdma => exact ⟨1, .error (.failed "nvidia_peermem is not loaded"), _, rfl, by simp⟩

theorem run_verdict_failPassFail :
    ∃ status, FeatureStatus.load allEnabled "status" = .ok status ∧
      Environment.NeverFires (σ := Unit) .quiet ∧
      (∀ f ∈ status.enabled, (failPassFail f).Completes .quiet) ∧
      ∃ (answers : List Answer) (r : Result) (s' : Situation Unit) (enough : Nat),
        Verdict status answers r ∧ ∀ patience, enough ≤ patience →
          run .quiet patience failPassFail "status" (.start ⟨allEnabled, ()⟩ false) = some (r, s') ∧
          acts .quiet patience failPassFail "status" (.start ⟨allEnabled, ()⟩ false) =
            answers.flatMap Answer.acts ∧
          run Environment.quiet.writingDiary patience (fun f => (failPassFail f).writingDiary f)
              "status" (Situation.withDiary (.start ⟨allEnabled, ()⟩ false) []) =
            some (r, s'.withDiary ((answers.flatMap Answer.acts).map Act.entry)) := by
  obtain ⟨status, hload, -⟩ := load_allEnabled
  have hquiet : Environment.NeverFires (σ := Unit) .quiet := fun _ _ => rfl
  have hprobes : ∀ f ∈ status.enabled, (failPassFail f).Completes .quiet :=
    fun f _ => failPassFail_completes f
  exact ⟨status, hload, hquiet, hprobes, run_verdict hload rfl hquiet hprobes⟩

end Validation

end DriverValidation
