import DriverValidation.Proofs.FeatureStatus.Flags
import DriverValidation.Proofs.Validation.Diary

/-!
What cancelling a validation means. The token may be fired by the environment or by a probe at any
time; there are three ways in which a validation is cancelled, and whichever comes first is its last
act: no probe is entered after it, and no failure found before it is reported. A validation that is not
cancelled has probed every enabled feature.
-/

namespace DriverValidation

namespace Act

theorem entered_waiting_succ (f : Feature) (polls n : Nat) :
    entered (waiting f (polls + 1) n) = [] := by
  induction n generalizing polls with
  | zero => rfl
  | succ n ih => exact ih (polls + 1)

/-- However long a probe is pending, it is entered once. -/
theorem entered_waiting_poll (f : Feature) (n : Nat) (told : Poll) :
    entered (waiting f 0 n ++ [.wakeUp f false, .poll f n told]) = [f] := by
  cases n with
  | zero => rfl
  | succ n =>
      rw [entered_append, waiting]
      change f :: entered (waiting f (0 + 1) n) ++ [] = [f]
      rw [entered_waiting_succ, List.append_nil]

theorem entered_waiting_wakeUp (f : Feature) (n : Nat) (fired : Bool) :
    entered (waiting f 0 n ++ [.wakeUp f fired]) <+: [f] := by
  rw [entered_append]
  cases n with
  | zero => exact List.nil_prefix
  | succ n =>
      change f :: entered (waiting f (0 + 1) n) ++ [] <+: [f]
      simp only [entered_waiting_succ, List.append_nil, List.prefix_rfl]

theorem not_cancels_of_mem_waiting {f : Feature} {polls n : Nat} {a : Act}
    (ha : a ∈ waiting f polls n) : ¬ a.Cancels := by
  induction n generalizing polls with
  | zero => cases ha
  | succ n ih =>
      simp only [waiting, List.mem_cons] at ha
      rcases ha with rfl | rfl | ha
      · exact Bool.false_ne_true
      · exact Poll.noConfusion
      · exact ih ha

/-- Each poll of a probe comes right after a wake-up of that probe at which the token is not found
fired. -/
def Attended (acts : List Act) : Prop :=
  ∀ before f polls told after, acts = before ++ .poll f polls told :: after →
    before.getLast? = some (.wakeUp f false)

theorem Attended.append {as bs : List Act} (has : Attended as) (hbs : Attended bs) :
    Attended (as ++ bs) := by
  intro before f polls told after heq
  rcases List.append_eq_append_iff.mp heq with ⟨cs, rfl, hcs⟩ | ⟨cs, has', hcs⟩
  · rw [List.getLast?_append, hbs cs f polls told after hcs]
    rfl
  · cases cs with
    | nil =>
        have hlast := hbs [] f polls told after hcs.symm
        cases hlast
    | cons c cs =>
        obtain ⟨rfl, -⟩ := List.cons.inj hcs
        exact has before f polls told cs has'

theorem attended_nil : Attended [] := by
  intro before f polls told after heq
  cases before <;> cases heq

theorem Attended.cons {a : Act} {as : List Act} (ha : a.isPoll = false) (has : Attended as) :
    Attended (a :: as) := by
  intro before f polls told after heq
  cases before with
  | nil =>
      obtain ⟨rfl, -⟩ := List.cons.inj heq
      cases ha
  | cons b before =>
      obtain ⟨-, heq⟩ := List.cons.inj heq
      rw [List.getLast?_cons, has before f polls told after heq]
      rfl

theorem attended_poll (f : Feature) (polls : Nat) (told : Poll) :
    Attended [.wakeUp f false, .poll f polls told] := by
  intro before g polls' told' after heq
  rcases before with - | ⟨b, - | ⟨c, before⟩⟩
  · cases heq
  · obtain ⟨rfl, hrest⟩ := List.cons.inj heq
    obtain ⟨hpoll, -⟩ := List.cons.inj hrest
    obtain ⟨rfl, -, -⟩ := poll.inj hpoll
    rfl
  · simp at heq

theorem attended_waiting (f : Feature) (polls n : Nat) : Attended (waiting f polls n) := by
  induction n generalizing polls with
  | zero => exact attended_nil
  | succ n ih => exact (attended_poll f polls .pending).append (ih (polls + 1))

end Act

namespace Validation

variable {σ : Type}

theorem Answer.entered_acts (a : Answer) : Act.entered a.acts = [a.feature] :=
  Act.entered_waiting_poll a.feature a.waits (.done a.result)

theorem Answer.attended_acts (a : Answer) : Act.Attended a.acts :=
  ((Act.attended_waiting a.feature 0 a.waits).append
    (Act.attended_poll a.feature a.waits (.done a.result))).cons rfl

theorem Answer.not_cancels {a : Answer} (hresult : a.result ≠ .error .cancelled) {act : Act}
    (hact : act ∈ a.acts) : ¬ act.Cancels := by
  simp only [Answer.acts, List.mem_cons, List.mem_append, List.not_mem_nil, or_false] at hact
  rcases hact with rfl | hact | rfl | rfl
  · exact Bool.false_ne_true
  · exact Act.not_cancels_of_mem_waiting hact
  · exact Bool.false_ne_true
  · exact fun hdone => hresult (Poll.done.inj hdone)

theorem not_cancels_of_mem_answers {as : List Answer}
    (has : ∀ a ∈ as, a.result ≠ .error .cancelled) {act : Act}
    (hact : act ∈ as.flatMap Answer.acts) : ¬ act.Cancels := by
  obtain ⟨a, ha, hact⟩ := List.mem_flatMap.mp hact
  exact Answer.not_cancels (has a ha) hact

theorem failuresOf_eq_nil_iff {f : Feature} {result : ProbeResult} :
    failuresOf f result = [] ↔ result = .ok () := by
  rcases result with e | ⟨⟩ <;> simp [failuresOf]

theorem verdict_eq_ok_iff {failures : List FeatureFailure} :
    verdict failures = .ok () ↔ failures = [] := by
  cases failures <;> simp [verdict]

theorem verdict_of_ne_ok {failures : List FeatureFailure} (hfailed : verdict failures ≠ .ok ()) :
    verdict failures = .error (.featureValidation failures) := by
  cases failures with
  | nil => exact absurd rfl hfailed
  | cons failure failures => rfl

theorem verdict_ne_cancelled (failures : List FeatureFailure) :
    verdict failures ≠ .error .cancelled := by
  cases failures <;> simp [verdict]

namespace BrokenOff

variable {f : Feature} {last : List Act}

theorem entered_in_order (hlast : BrokenOff f last) : Act.entered last <+: [f] := by
  cases hlast with
  | atTurn => exact List.nil_prefix
  | atWakeUp n => exact Act.entered_waiting_wakeUp f n true
  | byProbe n =>
      change Act.entered (Act.waiting f 0 n ++ [_, _]) <+: [f]
      simp only [Act.entered_waiting_poll, List.prefix_rfl]

theorem attended (hlast : BrokenOff f last) : Act.Attended last := by
  cases hlast with
  | atTurn => exact Act.attended_nil.cons rfl
  | atWakeUp n => exact ((Act.attended_waiting f 0 n).append (Act.attended_nil.cons rfl)).cons rfl
  | byProbe n =>
      exact ((Act.attended_waiting f 0 n).append
        (Act.attended_poll f n (.done (.error .cancelled)))).cons rfl

/-- Of the acts of a turn that is broken off the last one cancels, and no other does. -/
theorem cancels_last (hlast : BrokenOff f last) :
    ∃ front act, last = front ++ [act] ∧ act.Cancels ∧ ∀ a ∈ front, ¬ a.Cancels := by
  cases hlast with
  | atTurn => exact ⟨[], .turn f true, rfl, rfl, by simp⟩
  | atWakeUp n =>
      refine ⟨.turn f false :: Act.waiting f 0 n, .wakeUp f true, rfl, rfl, ?_⟩
      intro a ha
      rcases List.mem_cons.mp ha with rfl | ha
      · exact Bool.false_ne_true
      · exact Act.not_cancels_of_mem_waiting ha
  | byProbe n =>
      refine ⟨.turn f false :: (Act.waiting f 0 n ++ [.wakeUp f false]),
        .poll f n (.done (.error .cancelled)), by simp, rfl, ?_⟩
      intro a ha
      simp only [List.mem_cons, List.mem_append, List.not_mem_nil, or_false] at ha
      rcases ha with rfl | ha | rfl
      · exact Bool.false_ne_true
      · exact Act.not_cancels_of_mem_waiting ha
      · exact Bool.false_ne_true

end BrokenOff

namespace Course

variable {fs : List Feature} {failures : List FeatureFailure} {acts : List Act} {r : Result}

/-- The features are probed in their order, none of them twice or out of turn. -/
theorem entered_in_order (hcourse : Course fs failures acts r) : Act.entered acts <+: fs := by
  induction hcourse with
  | finished => exact List.nil_prefix
  | brokenOff hlast => exact hlast.entered_in_order.trans (List.prefix_append [_] _)
  | answered a _ _ ih =>
      rw [Act.entered_append, a.entered_acts]
      exact List.cons_prefix_cons.mpr ⟨rfl, ih⟩

theorem attended (hcourse : Course fs failures acts r) : Act.Attended acts := by
  induction hcourse with
  | finished => exact Act.attended_nil
  | brokenOff hlast => exact hlast.attended
  | answered a _ _ ih => exact a.attended_acts.append ih

/-- A course either answers for all features and reports their failures, or is broken off at one of
them and is cancelled. -/
theorem answers (hcourse : Course fs failures acts r) :
    ∃ as : List Answer, (∀ a ∈ as, a.result ≠ .error .cancelled) ∧
      ((as.map (·.feature) = fs ∧ acts = as.flatMap Answer.acts ∧
          r = verdict (failures ++ as.flatMap fun a => failuresOf a.feature a.result)) ∨
        ∃ f rest last, as.map (·.feature) ++ f :: rest = fs ∧ BrokenOff f last ∧
          acts = as.flatMap Answer.acts ++ last ∧ r = .error .cancelled) := by
  induction hcourse with
  | finished => exact ⟨[], by simp, Or.inl ⟨rfl, rfl, by simp⟩⟩
  | brokenOff hlast => exact ⟨[], by simp, Or.inr ⟨_, _, _, rfl, hlast, rfl, rfl⟩⟩
  | answered a hresult _ ih =>
      obtain ⟨as, has, ⟨rfl, rfl, rfl⟩ | ⟨f, rest, last, rfl, hlast, rfl, rfl⟩⟩ := ih
      · refine ⟨a :: as, List.forall_mem_cons.mpr ⟨hresult, has⟩, Or.inl ⟨rfl, rfl, ?_⟩⟩
        rw [List.flatMap_cons, List.append_assoc]
      · refine ⟨a :: as, List.forall_mem_cons.mpr ⟨hresult, has⟩,
          Or.inr ⟨f, rest, last, rfl, hlast, ?_, rfl⟩⟩
        rw [List.flatMap_cons, List.append_assoc]

/-- A course is cancelled exactly when one of its acts cancels. -/
theorem cancelled_iff (hcourse : Course fs failures acts r) :
    r = .error .cancelled ↔ ∃ a ∈ acts, a.Cancels := by
  obtain ⟨as, has, ⟨-, rfl, rfl⟩ | ⟨f, rest, last, -, hlast, rfl, rfl⟩⟩ := hcourse.answers
  · constructor
    · exact fun hverdict => absurd hverdict (verdict_ne_cancelled _)
    · rintro ⟨act, hact, hcancels⟩
      exact absurd hcancels (not_cancels_of_mem_answers has hact)
  · obtain ⟨front, act, rfl, hcancels, -⟩ := hlast.cancels_last
    exact ⟨fun _ => ⟨act, by simp, hcancels⟩, fun _ => rfl⟩

/-- Nothing is done after an act that cancels. -/
theorem last_of_cancels (hcourse : Course fs failures acts r) {before after : List Act} {a : Act}
    (hacts : acts = before ++ a :: after) (ha : a.Cancels) : after = [] := by
  obtain ⟨as, has, ⟨-, rfl, -⟩ | ⟨f, rest, last, -, hlast, rfl, -⟩⟩ := hcourse.answers
  · exact absurd ha (not_cancels_of_mem_answers has (by rw [hacts]; simp))
  · obtain ⟨front, act, rfl, -, hfront⟩ := hlast.cancels_last
    rcases List.eq_nil_or_concat after with hafter | ⟨after, act', rfl⟩
    · exact hafter
    · rw [← List.append_assoc, List.concat_eq_append, ← List.cons_append,
        ← List.append_assoc] at hacts
      obtain ⟨hmem, -⟩ := List.append_inj' hacts rfl
      have hin : a ∈ as.flatMap Answer.acts ++ front := by
        rw [hmem]
        simp
      rcases List.mem_append.mp hin with hin | hin
      · exact absurd ha (not_cancels_of_mem_answers has hin)
      · exact absurd ha (hfront a hin)

/-- A course without an act that cancels answers for all features and reports their failures. -/
theorem all_answered (hcourse : Course fs [] acts r) (hacts : ∀ a ∈ acts, ¬ a.Cancels) :
    ∃ answers : List Answer, answers.map (·.feature) = fs ∧ acts = answers.flatMap Answer.acts ∧
      (r = .ok () ↔ ∀ a ∈ answers, a.result = .ok ()) ∧
      (r ≠ .ok () → r = .error (.featureValidation
        (answers.flatMap fun a => failuresOf a.feature a.result))) := by
  obtain ⟨as, -, ⟨hfs, heq, hverdict⟩ | ⟨f, rest, last, -, -, -, hcancelled⟩⟩ := hcourse.answers
  · refine ⟨as, hfs, heq, ?_, ?_⟩
    · rw [hverdict, List.nil_append, verdict_eq_ok_iff, List.flatMap_eq_nil_iff]
      simp only [failuresOf_eq_nil_iff]
    · intro hfailed
      rw [hverdict, List.nil_append] at hfailed ⊢
      exact verdict_of_ne_ok hfailed
  · obtain ⟨a, ha, hcancels⟩ := hcourse.cancelled_iff.mp hcancelled
    exact absurd hcancels (hacts a ha)

end Course

/-- What the acts of a validation of enabled features say about its result, and the other way round. -/
structure Cancellation (enabled : List Feature) (acts : List Act) (r : Result) : Prop where
  /-- The probes are entered in the order of the features, without a gap. -/
  entered_in_order : Act.entered acts <+: enabled
  /-- No probe is entered twice. -/
  entered_once : (Act.entered acts).Nodup
  /-- No probe is polled at a wake-up at which the token is found fired. -/
  attended : Act.Attended acts
  /-- The result is the cancellation exactly when the token is found fired as a turn begins or at a
  wake-up, or a probe tells that it was cancelled. -/
  cancelled_iff : r = .error .cancelled ↔ ∃ a ∈ acts, a.Cancels
  /-- From then on nothing is done. -/
  last_of_cancels : ∀ before a after, acts = before ++ a :: after → a.Cancels → after = []
  /-- No failure is reported then, though there may have been some. -/
  nothing_reported : ∀ e, r = .error e → (∃ a ∈ acts, a.Cancels) → e.failedFeatures = []
  /-- Up to then all features had their turns, and each of their probes had its own result. -/
  broken_off : r = .error .cancelled → ∃ (answers : List Answer) (f : Feature) (rest : List Feature)
    (last : List Act), answers.map (·.feature) ++ f :: rest = enabled ∧ BrokenOff f last ∧
      acts = answers.flatMap Answer.acts ++ last
  /-- Otherwise all features had their turns, and the result tells the failures of their probes. -/
  answered : (∀ a ∈ acts, ¬ a.Cancels) → ∃ answers : List Answer,
    answers.map (·.feature) = enabled ∧ acts = answers.flatMap Answer.acts ∧
      (r = .ok () ↔ ∀ a ∈ answers, a.result = .ok ()) ∧
      (r ≠ .ok () → r = .error (.featureValidation
        (answers.flatMap fun a => failuresOf a.feature a.result)))

/-- Whatever the environment and the probes do, a validation that comes to an end is cancelled by the
first act that cancels, and else reports what all enabled features came to. The acts are those that the
environment and the probes would write down. -/
theorem run_cancellation {env : Environment σ} {patience : Nat} {probes : Feature → Probe σ}
    {statusFile : String} {status : FeatureStatus} {s s' : Situation σ} {r : Result}
    (hload : FeatureStatus.load s.host.tree statusFile = .ok status)
    (hrun : run env patience probes statusFile s = some (r, s')) :
    Cancellation status.enabled (acts env patience probes statusFile s) r ∧
      run env.writingDiary patience (fun f => (probes f).writingDiary f) statusFile
          (s.withDiary []) =
        some (r, s'.withDiary ((acts env patience probes statusFile s).map Act.entry)) := by
  refine ⟨?_, run_withDiary_nil hrun⟩
  have hcourse := course_of_run hload hrun
  have horder := hcourse.entered_in_order
  refine ⟨horder, status.enabled_nodup.sublist horder.sublist, hcourse.attended,
    hcourse.cancelled_iff, fun _ _ _ => hcourse.last_of_cancels, ?_, ?_, hcourse.all_answered⟩
  · intro e he hcancels
    rw [hcourse.cancelled_iff.mpr hcancels] at he
    cases he
    rfl
  · intro hcancelled
    obtain ⟨as, -, ⟨-, -, hverdict⟩ | ⟨f, rest, last, hfs, hlast, hacts, -⟩⟩ := hcourse.answers
    · exact absurd (hverdict.symm.trans hcancelled) (verdict_ne_cancelled _)
    · exact ⟨as, f, rest, last, hfs, hlast, hacts⟩

/-- Files of which one is a status that enables all features. -/
def allEnabled : Files.Tree :=
  Files.Tree.empty.put ["status"] (.file (Text.Utf8.encode
    "GDRCOPY_ENABLED: true\nGDS_ENABLED: true\nGPU_DIRECT_RDMA_ENABLED: true\n"))

theorem load_allEnabled :
    ∃ status, FeatureStatus.load allEnabled "status" = .ok status ∧ status.enabled = Feature.all := by
  have hload : (FeatureStatus.load allEnabled "status").toOption.map FeatureStatus.enabled =
      some Feature.all := by decide +kernel
  cases hstatus : FeatureStatus.load allEnabled "status" with
  | error e =>
      rw [hstatus] at hload
      cases hload
  | ok status =>
      rw [hstatus] at hload
      exact ⟨status, rfl, Option.some.inj hload⟩

/-- Probes of which the first fails and the others fire the token and have no result. -/
def failThenFire : Feature → Probe Unit
  | .gdrcopy => fun _ _ host => ⟨.done (.error (.failed "gdrdrv is not loaded")), false, host, []⟩
  | _ => fun _ _ host => ⟨.pending, true, host, []⟩

theorem run_failThenFire :
    ∃ status s', FeatureStatus.load allEnabled "status" = .ok status ∧
      run .quiet 2 failThenFire "status" (.start ⟨allEnabled, ()⟩ false) =
        some (.error .cancelled, s') := by
  obtain ⟨status, hload, henabled⟩ := load_allEnabled
  rw [run]
  dsimp only [Situation.start]
  rw [hload]
  dsimp only
  rw [henabled]
  exact ⟨status, _, rfl, rfl⟩

/-- The token is fired by the second probe: the third is not entered, and the failure of the first is
not reported. -/
theorem run_cancellation_failThenFire :
    ∃ status s', FeatureStatus.load allEnabled "status" = .ok status ∧
      run .quiet 2 failThenFire "status" (.start ⟨allEnabled, ()⟩ false) =
        some (.error .cancelled, s') ∧
      Cancellation status.enabled
        (acts .quiet 2 failThenFire "status" (.start ⟨allEnabled, ()⟩ false)) (.error .cancelled) ∧
      run Environment.quiet.writingDiary 2 (fun f => (failThenFire f).writingDiary f) "status"
          (Situation.withDiary (.start ⟨allEnabled, ()⟩ false) []) =
        some (.error .cancelled, s'.withDiary ((acts .quiet 2 failThenFire "status"
          (.start ⟨allEnabled, ()⟩ false)).map Act.entry)) := by
  obtain ⟨status, s', hload, hrun⟩ := run_failThenFire
  exact ⟨status, s', hload, hrun, run_cancellation hload hrun⟩

end Validation

end DriverValidation
