import DriverValidation.Proofs.Probe.Command
import DriverValidation.Proofs.Validation.Verdict

/-!
The log of a validation and its result. Probes may log whatever they like, the words of the validation
included, so a journal is kept beside the run in which each event stands with the one who logged it. What
the validation itself logged says of each probe that finished what it came to, in order, and nothing of
the others; the result says the same.
-/

namespace DriverValidation

variable {σ : Type}

/-- An event with the one who logged it: the probe of a feature, or the validation itself. -/
structure Logged where
  author : Option Feature
  event : Event

/-- The events that the validation itself logged. -/
def own (journal : List Logged) : List Event :=
  (journal.filter (·.author.isNone)).map Logged.event

@[simp] theorem own_append (journal more : List Logged) : own (journal ++ more) = own journal ++ own more := by
  rw [own, List.filter_append, List.map_append]
  rfl

/-- What is written of an event into the log. -/
structure Line where
  level : Level
  message : String
  fields : List (String × String)
  deriving DecidableEq

namespace Event

def line (e : Event) : Line := ⟨e.level, e.message, e.fields⟩

/-- The event tells what the probe of a feature came to. -/
def isVerdict : Event → Bool
  | featureValidated _ | featureFailed _ => true
  | _ => false

/-- The feature of which an event tells. -/
def feature? : Event → Option Feature
  | featureValidated f => some f
  | featureFailed failure => some failure.feature
  | _ => none

end Event

/-- What is to be written of the result of the probe of a feature, if that is no cancellation. -/
def lineOf (f : Feature) : ProbeResult → Option Line
  | .ok () => some ⟨.info, "Additional driver component validated",
      [("feature", f.name), ("component", f.component.name)]⟩
  | .error .cancelled => none
  | .error e => some ⟨.error, "Additional driver component validation failed",
      [("feature", f.name), ("component", f.component.name), ("error", e.message)]⟩

/-- What is to be written of an act: a line for each probe that finishes. -/
def Act.line? : Act → Option Line
  | poll f _ (.done result) => lineOf f result
  | _ => none

/-! ## The journal -/

/-- What is logged while the probe of a feature is waited for. -/
def Probe.journal (env : Environment σ) (f : Feature) (probe : Probe σ) :
    Nat → Nat → Situation σ → List Logged
  | 0, _, _ => []
  | patience + 1, polls, s =>
    let s := s.look env
    if s.fired then []
    else
      let turn := probe polls s.fired s.host
      turn.log.map (Logged.mk (some f)) ++
        match turn.poll with
        | .done _ => []
        | .pending => journal env f probe patience (polls + 1) (s.after turn)

namespace Validation

/-- What is logged while features are probed in turn. -/
def journalOn (env : Environment σ) (patience : Nat) (probes : Feature → Probe σ) :
    List Feature → Situation σ → List Logged
  | [], _ => []
  | f :: fs, s =>
    let s := s.look env
    if s.fired then []
    else
      (probes f).journal env f patience 0 s ++
        match (probes f).await env patience 0 s with
        | none => []
        | some (.ok (), s) =>
          ⟨none, .featureValidated f⟩ ::
            journalOn env patience probes fs (s.note [.featureValidated f])
        | some (.error .cancelled, _) => []
        | some (.error e, s) =>
          ⟨none, .featureFailed ⟨f, e⟩⟩ ::
            journalOn env patience probes fs (s.note [.featureFailed ⟨f, e⟩])

/-- What is logged in a validation. -/
def journal (env : Environment σ) (patience : Nat) (probes : Feature → Probe σ)
    (statusFile : String) (s : Situation σ) : List Logged :=
  match FeatureStatus.load s.host.tree statusFile with
  | .error _ => []
  | .ok status =>
    ⟨none, status.loadedEvent statusFile⟩ ::
      if status.enabled.isEmpty then [⟨none, .nothingEnabled statusFile⟩]
      else journalOn env patience probes status.enabled (s.note [status.loadedEvent statusFile])

end Validation

section Waiting

variable {env : Environment σ} {f : Feature} {probe : Probe σ} {patience polls : Nat}
  {s s' : Situation σ} {result : ProbeResult}

namespace Probe

theorem journal_of_fired (hfired : (s.look env).fired = true) :
    probe.journal env f (patience + 1) polls s = [] := by
  rw [journal, if_pos hfired]

theorem journal_of_done (hfired : (s.look env).fired = false)
    (hpoll : (probe polls false (s.look env).host).poll = .done result) :
    probe.journal env f (patience + 1) polls s =
      (probe polls false (s.look env).host).log.map (Logged.mk (some f)) := by
  simp only [journal, hfired, Bool.false_eq_true, if_false, hpoll, List.append_nil]

theorem journal_of_pending (hfired : (s.look env).fired = false)
    (hpoll : (probe polls false (s.look env).host).poll = .pending) :
    probe.journal env f (patience + 1) polls s =
      (probe polls false (s.look env).host).log.map (Logged.mk (some f)) ++
        probe.journal env f patience (polls + 1)
          ((s.look env).after (probe polls false (s.look env).host)) := by
  simp only [journal, hfired, Bool.false_eq_true, if_false, hpoll]

/-- What a probe logs is in the journal, in order. -/
theorem log_of_await (hawait : probe.await env patience polls s = some (result, s')) :
    s'.log = s.log ++ (probe.journal env f patience polls s).map Logged.event := by
  have hevents : ∀ events : List Event, (events.map (Logged.mk (some f))).map Logged.event = events := by
    intro events
    rw [List.map_map]
    exact List.map_id events
  induction patience generalizing polls s with
  | zero => cases hawait
  | succ patience ih =>
      rcases await_cases hawait with ⟨hfired, -, rfl⟩ | ⟨hfired, hpoll, rfl⟩ |
        ⟨hfired, hpoll, hrest⟩
      · rw [journal_of_fired hfired]
        exact (List.append_nil s.log).symm
      · rw [journal_of_done hfired hpoll, hevents]
        rfl
      · rw [journal_of_pending hfired hpoll, List.map_append, hevents, ← List.append_assoc]
        exact ih hrest

/-- Nothing in the journal of a probe is the validation's own. -/
theorem own_journal (env : Environment σ) (f : Feature) (probe : Probe σ) (patience polls : Nat)
    (s : Situation σ) : own (probe.journal env f patience polls s) = [] := by
  have hevents : ∀ events : List Event, own (events.map (Logged.mk (some f))) = [] := by
    intro events
    rw [own, List.filter_eq_nil_iff.mpr, List.map_nil]
    intro entry hentry
    obtain ⟨event, -, rfl⟩ := List.mem_map.mp hentry
    exact Bool.false_ne_true
  induction patience generalizing polls s with
  | zero => rfl
  | succ patience ih =>
      cases hfired : (s.look env).fired with
      | true =>
          rw [journal_of_fired hfired]
          rfl
      | false =>
          cases hpoll : (probe polls false (s.look env).host).poll with
          | done result => rw [journal_of_done hfired hpoll, hevents]
          | pending => rw [journal_of_pending hfired hpoll, own_append, hevents, ih, List.nil_append]

/-- A probe that logs no verdicts of its own. -/
def LogsNoVerdict (probe : Probe σ) : Prop :=
  ∀ polls fired host, ∀ e ∈ (probe polls fired host).log, e.isVerdict = false

theorem of_mem_journal (hprobe : probe.LogsNoVerdict) :
    ∀ entry ∈ probe.journal env f patience polls s, entry.event.isVerdict = false := by
  have hevents : ∀ entry ∈ (probe polls false (s.look env).host).log.map (Logged.mk (some f)),
      entry.event.isVerdict = false := by
    intro entry hentry
    obtain ⟨e, he, rfl⟩ := List.mem_map.mp hentry
    exact hprobe _ _ _ e he
  induction patience generalizing polls s with
  | zero => exact nofun
  | succ patience ih =>
      cases hfired : (s.look env).fired with
      | true =>
          rw [journal_of_fired hfired]
          exact nofun
      | false =>
          cases hpoll : (probe polls false (s.look env).host).poll with
          | done result =>
              rw [journal_of_done hfired hpoll]
              exact hevents
          | pending =>
              rw [journal_of_pending hfired hpoll, List.forall_mem_append]
              refine ⟨hevents, ih fun entry hentry => ?_⟩
              obtain ⟨e, he, rfl⟩ := List.mem_map.mp hentry
              exact hprobe _ _ _ e he

/-- A probe that runs a command logs that it does, and nothing else. -/
theorem ofCommand_logsNoVerdict (commands : Commands σ) (argv : List String) (limit : Duration) :
    (ofCommand commands argv limit).LogsNoVerdict := by
  intro polls fired host e he
  rw [eq_probeStarted_of_mem he]
  rfl

end Probe

end Waiting

/-! ## Verdicts -/

namespace Act

/-- What the validation logs of an act: the verdict on each probe that finishes. -/
def verdict? : Act → Option Event
  | poll _ _ (.done (.error .cancelled)) => none
  | poll f _ (.done result) => some (Validation.eventOf f result)
  | _ => none

theorem verdict?_done {f : Feature} {polls : Nat} {result : ProbeResult}
    (hresult : result ≠ .error .cancelled) :
    verdict? (.poll f polls (.done result)) = some (Validation.eventOf f result) := by
  rcases result with e | ⟨⟩
  · cases e with
    | cancelled => exact absurd rfl hresult
    | failed | spawn | exit | timeout => rfl
  · rfl

theorem isVerdict_of_verdict? {a : Act} {e : Event} (he : a.verdict? = some e) :
    e.isVerdict = true := by
  cases a with
  | turn f fired | wakeUp f fired => cases he
  | poll f polls told =>
      cases told with
      | pending => cases he
      | done result =>
          by_cases hresult : result = .error .cancelled
          · subst result
            cases he
          · rw [verdict?_done hresult] at he
            rw [← Option.some.inj he]
            rcases result with e | ⟨⟩ <;> rfl

/-- The verdict is written as the result is to be told. -/
theorem line?_eq (a : Act) : a.line? = a.verdict?.map Event.line := by
  cases a with
  | turn f fired | wakeUp f fired => rfl
  | poll f polls told =>
      rcases told with _ | (e | ⟨⟩)
      · rfl
      · cases e <;> rfl
      · rfl

theorem verdicts_waiting (f : Feature) (polls n : Nat) : (waiting f polls n).filterMap verdict? = [] := by
  induction n generalizing polls with
  | zero => rfl
  | succ n ih => exact ih (polls + 1)

end Act

namespace Validation

theorem Answer.verdicts_acts {a : Answer} (hresult : a.result ≠ .error .cancelled) :
    a.acts.filterMap Act.verdict? = [eventOf a.feature a.result] := by
  have hpoll : Act.verdict? (.poll a.feature a.waits (.done a.result)) = _ :=
    Act.verdict?_done hresult
  rw [acts, List.filterMap_cons_none rfl, List.filterMap_append, Act.verdicts_waiting,
    List.nil_append, List.filterMap_cons_none rfl, List.filterMap_cons_some hpoll, List.filterMap_nil]

theorem verdicts_answers {as : List Answer} (has : ∀ a ∈ as, a.result ≠ .error .cancelled) :
    (as.flatMap Answer.acts).filterMap Act.verdict? = as.map fun a => eventOf a.feature a.result := by
  induction as with
  | nil => rfl
  | cons a as ih =>
      obtain ⟨ha, has⟩ := List.forall_mem_cons.mp has
      rw [List.flatMap_cons, List.filterMap_append, a.verdicts_acts ha, ih has, List.map_cons]
      rfl

/-- A turn that is broken off has no verdict. -/
theorem BrokenOff.verdicts {f : Feature} {last : List Act} (hlast : BrokenOff f last) :
    last.filterMap Act.verdict? = [] := by
  cases hlast with
  | atTurn => rfl
  | atWakeUp n =>
      rw [List.filterMap_cons_none rfl, List.filterMap_append, Act.verdicts_waiting]
      rfl
  | byProbe n =>
      rw [List.filterMap_cons_none rfl, List.filterMap_append, Act.verdicts_waiting]
      rfl

/-! ## The journal of a run -/

section Run

variable {env : Environment σ} {patience : Nat} {probes : Feature → Probe σ} {f : Feature}
  {fs : List Feature} {failures : List FeatureFailure} {s s' s₁ : Situation σ} {r : Result}
  {result : ProbeResult}

theorem journalOn_cons_of_fired (hfired : (s.look env).fired = true) :
    journalOn env patience probes (f :: fs) s = [] := by
  rw [journalOn, if_pos hfired]

theorem journalOn_cons_of_cancelled (hfired : (s.look env).fired = false)
    (hawait : (probes f).await env patience 0 (s.look env) = some (.error .cancelled, s₁)) :
    journalOn env patience probes (f :: fs) s = (probes f).journal env f patience 0 (s.look env) := by
  rw [journalOn, if_neg (by rw [hfired]; exact Bool.false_ne_true), hawait, List.append_nil]

theorem journalOn_cons_of_answer (hfired : (s.look env).fired = false)
    (hawait : (probes f).await env patience 0 (s.look env) = some (result, s₁))
    (hresult : result ≠ .error .cancelled) :
    journalOn env patience probes (f :: fs) s =
      (probes f).journal env f patience 0 (s.look env) ++ ⟨none, eventOf f result⟩ ::
        journalOn env patience probes fs (s₁.note [eventOf f result]) := by
  rw [journalOn, if_neg (by rw [hfired]; exact Bool.false_ne_true), hawait]
  rcases result with e | ⟨⟩
  · cases e with
    | cancelled => exact absurd rfl hresult
    | failed | spawn | exit | timeout => rfl
  · rfl

theorem journalOn_cons_of_none (hfired : (s.look env).fired = false)
    (hawait : (probes f).await env patience 0 (s.look env) = none) :
    journalOn env patience probes (f :: fs) s = (probes f).journal env f patience 0 (s.look env) := by
  rw [journalOn, if_neg (by rw [hfired]; exact Bool.false_ne_true), hawait, List.append_nil]

/-- The verdicts in a journal are the validation's own, if its probes log none. -/
theorem of_mem_journalOn (hprobes : ∀ f, (probes f).LogsNoVerdict) :
    ∀ entry ∈ journalOn env patience probes fs s, entry.author ≠ none →
      entry.event.isVerdict = false := by
  induction fs generalizing s with
  | nil => exact nofun
  | cons f fs ih =>
      have hprobe : ∀ entry ∈ (probes f).journal env f patience 0 (s.look env), entry.author ≠ none →
          entry.event.isVerdict = false :=
        fun entry hentry _ => Probe.of_mem_journal (hprobes f) entry hentry
      cases hfired : (s.look env).fired with
      | true =>
          rw [journalOn_cons_of_fired hfired]
          exact nofun
      | false =>
          cases hawait : (probes f).await env patience 0 (s.look env) with
          | none =>
              rw [journalOn_cons_of_none hfired hawait]
              exact hprobe
          | some answer =>
              obtain ⟨result, s₁⟩ := answer
              by_cases hresult : result = .error .cancelled
              · subst result
                rw [journalOn_cons_of_cancelled hfired hawait]
                exact hprobe
              · rw [journalOn_cons_of_answer hfired hawait hresult, List.forall_mem_append,
                  List.forall_mem_cons]
                exact ⟨hprobe, fun hnone => absurd rfl hnone, ih⟩

/-- Probing features adds the events of its journal to the log. -/
theorem log_of_probeAll (hrun : probeAll env patience probes fs failures s = some (r, s')) :
    s'.log = s.log ++ (journalOn env patience probes fs s).map Logged.event := by
  induction fs generalizing failures s with
  | nil =>
      obtain ⟨-, rfl⟩ := Prod.mk.inj (Option.some.inj hrun)
      exact (List.append_nil s.log).symm
  | cons f fs ih =>
      rcases probeAll_cons_cases hrun with ⟨hfired, -, rfl⟩ | ⟨hfired, -, hawait⟩ |
        ⟨result, s₁, hfired, hresult, hawait, hrest⟩
      · rw [journalOn_cons_of_fired hfired]
        exact (List.append_nil s.log).symm
      · rw [journalOn_cons_of_cancelled hfired hawait]
        exact Probe.log_of_await hawait
      · have hlog : s₁.log = s.log ++ _ := Probe.log_of_await (f := f) (s := s.look env) hawait
        have hrest := ih hrest
        rw [journalOn_cons_of_answer hfired hawait hresult, List.map_append, List.map_cons,
          ← List.append_assoc, ← hlog, List.append_cons]
        exact hrest

/-- What the validation itself logs of the features are the verdicts on them. -/
theorem own_journalOn (hrun : probeAll env patience probes fs failures s = some (r, s')) :
    own (journalOn env patience probes fs s) =
      (actsOn env patience probes fs s).filterMap Act.verdict? := by
  induction fs generalizing failures s with
  | nil => rfl
  | cons f fs ih =>
      rcases probeAll_cons_cases hrun with ⟨hfired, -, -⟩ | ⟨hfired, -, hawait⟩ |
        ⟨result, s₁, hfired, hresult, hawait, hrest⟩
      · rw [journalOn_cons_of_fired hfired, actsOn_cons_of_fired hfired]
        rfl
      · rw [journalOn_cons_of_cancelled hfired hawait, actsOn_cons_of_cancelled hfired hawait,
          Probe.own_journal, List.filterMap_cons_none rfl]
        obtain ⟨n, ⟨hacts, -⟩ | hacts⟩ := Probe.acts_of_await f hawait
        · rw [hacts, List.filterMap_append, Act.verdicts_waiting]
          rfl
        · rw [hacts, List.filterMap_append, Act.verdicts_waiting]
          rfl
      · obtain ⟨n, ⟨-, hcancelled⟩ | hacts⟩ := Probe.acts_of_await f hawait
        · exact absurd hcancelled hresult
        · have hverdict : ((probes f).acts env f patience 0 (s.look env)).filterMap Act.verdict? =
              [eventOf f result] := by
            rw [hacts, List.filterMap_append, Act.verdicts_waiting, List.nil_append,
              List.filterMap_cons_none rfl, List.filterMap_cons_some (Act.verdict?_done hresult)]
            rfl
          rw [journalOn_cons_of_answer hfired hawait hresult, actsOn_cons_of_answer hfired hawait hresult,
            List.cons_append, List.filterMap_cons_none rfl, List.filterMap_append, hverdict, own_append,
            Probe.own_journal, ← ih hrest]
          rfl

/-- What a validation tells before the verdicts: the status, and whether there is anything to do. -/
def preface (status : FeatureStatus) (statusFile : String) : List Event :=
  status.loadedEvent statusFile ::
    if status.enabled.isEmpty then [.nothingEnabled statusFile] else []

theorem own_journal {statusFile : String} {status : FeatureStatus}
    (hload : FeatureStatus.load s.host.tree statusFile = .ok status)
    (hrun : run env patience probes statusFile s = some (r, s')) :
    own (journal env patience probes statusFile s) = preface status statusFile ++
      (acts env patience probes statusFile s).filterMap Act.verdict? := by
  simp only [run, hload] at hrun
  simp only [journal, acts, hload, preface]
  by_cases hempty : status.enabled.isEmpty = true
  · rw [if_pos hempty, if_pos hempty, List.isEmpty_iff.mp hempty]
    rfl
  · rw [if_neg hempty] at hrun
    rw [if_neg hempty, if_neg hempty, ← own_journalOn hrun]
    rfl

theorem log_of_run {statusFile : String} {status : FeatureStatus}
    (hload : FeatureStatus.load s.host.tree statusFile = .ok status)
    (hrun : run env patience probes statusFile s = some (r, s')) :
    s'.log = s.log ++ (journal env patience probes statusFile s).map Logged.event := by
  simp only [run, hload] at hrun
  simp only [journal, hload]
  by_cases hempty : status.enabled.isEmpty = true
  · rw [if_pos hempty] at hrun ⊢
    obtain ⟨-, rfl⟩ := Prod.mk.inj (Option.some.inj hrun)
    exact List.append_assoc s.log _ _
  · rw [if_neg hempty] at hrun ⊢
    rw [log_of_probeAll hrun]
    exact List.append_assoc s.log _ _

end Run

/-! ## The log and the result -/

section Events

variable {as : List Answer} {acts : List Act} {log : List Event} {journal : List Logged}

theorem eq_of_verdict_eq {failures reported : List FeatureFailure}
    (hverdict : verdict failures = .error (.featureValidation reported)) : failures = reported := by
  cases failures with
  | nil => cases hverdict
  | cons failure failures =>
      exact ValidationError.featureValidation.inj (Except.error.inj hverdict)

theorem feature?_eventOf (f : Feature) (result : ProbeResult) :
    (eventOf f result).feature? = some f := by
  rcases result with e | ⟨⟩ <;> rfl

/-- Of the verdicts on features the failures are the errors. -/
theorem errors_of_answers (as : List Answer) :
    (as.map fun a => eventOf a.feature a.result).filter (·.level == .error) =
      (as.flatMap fun a => failuresOf a.feature a.result).map .featureFailed := by
  induction as with
  | nil => rfl
  | cons a as ih =>
      rw [List.map_cons, List.flatMap_cons, List.map_append, ← ih]
      rcases a with ⟨f, waits, e | ⟨⟩⟩
      · exact List.filter_cons_of_pos rfl
      · exact List.filter_cons_of_neg Bool.false_ne_true

theorem isVerdict_of_mem {e : Event} (he : e ∈ acts.filterMap Act.verdict?) : e.isVerdict = true := by
  obtain ⟨a, -, ha⟩ := List.mem_filterMap.mp he
  exact Act.isVerdict_of_verdict? ha

theorem of_mem_preface {status : FeatureStatus} {statusFile : String} {e : Event}
    (he : e ∈ preface status statusFile) : e.isVerdict = false ∧ (e.level == .error) = false := by
  rcases List.mem_cons.mp he with rfl | he
  · exact ⟨rfl, rfl⟩
  · by_cases hempty : status.enabled.isEmpty = true
    · rw [if_pos hempty] at he
      rw [List.mem_singleton.mp he]
      exact ⟨rfl, rfl⟩
    · rw [if_neg hempty] at he
      cases he

theorem preface_says_nothing_iff (status : FeatureStatus) (statusFile : String) :
    (∃ e ∈ preface status statusFile, e.message = "No additional driver components enabled") ↔
      status.enabled = [] := by
  constructor
  · rintro ⟨e, he, hmessage⟩
    rcases List.mem_cons.mp he with rfl | he
    · exact absurd hmessage (by decide : "Loaded feature status" ≠ _)
    · by_cases hempty : status.enabled.isEmpty = true
      · exact List.isEmpty_iff.mp hempty
      · rw [if_neg hempty] at he
        cases he
  · intro hempty
    refine ⟨.nothingEnabled statusFile, ?_, rfl⟩
    rw [preface, hempty]
    exact List.mem_cons_of_mem _ (List.mem_singleton_self _)

theorem message_of_isVerdict {e : Event} (he : e.isVerdict = true) :
    e.message ≠ "No additional driver components enabled" := by
  cases e with
  | featureValidated f =>
      show "Additional driver component validated" ≠ "No additional driver components enabled"
      decide
  | featureFailed failure =>
      show "Additional driver component validation failed" ≠ "No additional driver components enabled"
      decide
  | _ => cases he

/-- If none but the validation itself logs verdicts, those in a journal are its own. -/
theorem verdicts_of_own
    (hjournal : ∀ entry ∈ journal, entry.author ≠ none → entry.event.isVerdict = false) :
    (journal.map Logged.event).filter Event.isVerdict = (own journal).filter Event.isVerdict := by
  induction journal with
  | nil => rfl
  | cons entry journal ih =>
      obtain ⟨hentry, hjournal⟩ := List.forall_mem_cons.mp hjournal
      have hrest := ih hjournal
      rcases entry with ⟨_ | f, e⟩
      · have hown : own (⟨none, e⟩ :: journal) = e :: own journal := rfl
        rw [List.map_cons, hown, List.filter_cons, List.filter_cons, hrest]
      · have hown : own (⟨some f, e⟩ :: journal) = own journal := rfl
        rw [List.map_cons, hown, List.filter_cons, hentry nofun, if_neg Bool.false_ne_true, hrest]

theorem features_of_answers (as : List Answer) :
    (as.map fun a => eventOf a.feature a.result).filterMap Event.feature? = as.map (·.feature) := by
  rw [List.filterMap_map, ← List.filterMap_eq_map]
  exact congrArg (List.filterMap · as) (funext fun a => feature?_eventOf a.feature a.result)

/-- Without a failure all verdicts are that a feature was validated. -/
theorem verdicts_of_passed (hpassed : (as.flatMap fun a => failuresOf a.feature a.result) = []) :
    (as.map fun a => eventOf a.feature a.result) = (as.map (·.feature)).map .featureValidated := by
  rw [List.map_map]
  refine List.map_congr_left fun a ha => ?_
  rw [failuresOf_eq_nil_iff.mp (List.flatMap_eq_nil_iff.mp hpassed a ha)]
  rfl

end Events

section Run

variable {env : Environment σ} {patience : Nat} {probes : Feature → Probe σ} {statusFile : String}
  {status : FeatureStatus} {s s' : Situation σ} {r : Result}
  (hload : FeatureStatus.load s.host.tree statusFile = .ok status)
  (hrun : run env patience probes statusFile s = some (r, s'))

include hload hrun

theorem verdicts_own : (own (journal env patience probes statusFile s)).filter Event.isVerdict =
    (acts env patience probes statusFile s).filterMap Act.verdict? := by
  rw [own_journal hload hrun, List.filter_append, List.filter_eq_nil_iff.mpr, List.nil_append,
    List.filter_eq_self.mpr fun e he => isVerdict_of_mem he]
  intro e he
  rw [(of_mem_preface he).1]
  exact Bool.false_ne_true

theorem errors_own : (own (journal env patience probes statusFile s)).filter (·.level == .error) =
    ((acts env patience probes statusFile s).filterMap Act.verdict?).filter (·.level == .error) := by
  rw [own_journal hload hrun, List.filter_append, List.filter_eq_nil_iff.mpr, List.nil_append]
  intro e he
  rw [(of_mem_preface he).2]
  exact Bool.false_ne_true

/-- Probes that log no verdicts themselves leave those in the log to the validation. -/
theorem verdicts_of_run (hprobes : ∀ f, (probes f).LogsNoVerdict) :
    s'.log.filter Event.isVerdict =
      s.log.filter Event.isVerdict ++ (acts env patience probes statusFile s).filterMap Act.verdict? := by
  rw [log_of_run hload hrun, List.filter_append, ← verdicts_own hload hrun, verdicts_of_own]
  simp only [journal, hload]
  rw [List.forall_mem_cons]
  refine ⟨fun hnone => absurd rfl hnone, ?_⟩
  by_cases hempty : status.enabled.isEmpty = true
  · rw [if_pos hempty, List.forall_mem_singleton]
    exact fun hnone => absurd rfl hnone
  · rw [if_neg hempty]
    exact of_mem_journalOn hprobes

end Run

/-- What a log and the result of a validation of enabled features have to do with each other. -/
structure Story (enabled : List Feature) (acts : List Act) (journal : List Logged)
    (log log' : List Event) (r : Result) : Prop where
  /-- The log holds what is in the journal, and nothing else is new in it. -/
  log_eq : log' = log ++ journal.map Logged.event
  /-- The validation writes one line for each probe that finishes, and no other verdicts. -/
  lines : ((own journal).filter Event.isVerdict).map Event.line = acts.filterMap Act.line?
  /-- The failures that are reported are those that are logged as errors. -/
  failed : ∀ failures, r = .error (.featureValidation failures) →
    (own journal).filter (·.level == .error) = failures.map .featureFailed
  /-- After a success nothing is logged as an error, and each enabled feature as validated. -/
  passed : r = .ok () → (∀ e ∈ own journal, e.level ≠ .error) ∧
    (own journal).filter Event.isVerdict = enabled.map .featureValidated
  /-- A cancellation leaves at least one enabled feature without a verdict, and all behind it. -/
  cancelled : r = .error .cancelled → ∃ f rest,
    ((own journal).filter Event.isVerdict).filterMap Event.feature? ++ f :: rest = enabled
  /-- That there is nothing to do is logged exactly if no feature is enabled. -/
  nothing : (∃ e ∈ own journal, e.message = "No additional driver components enabled") ↔
    enabled = []

/-- What a validation logs and what it comes to tell the same story. If its probes log no verdicts, as
those that run commands do not, the log alone tells it. -/
theorem run_story {env : Environment σ} {patience : Nat} {probes : Feature → Probe σ}
    {statusFile : String} {status : FeatureStatus} {s s' : Situation σ} {r : Result}
    (hload : FeatureStatus.load s.host.tree statusFile = .ok status)
    (hrun : run env patience probes statusFile s = some (r, s')) :
    Story status.enabled (acts env patience probes statusFile s)
        (journal env patience probes statusFile s) s.log s'.log r ∧
      ((∀ f, (probes f).LogsNoVerdict) →
        (s'.log.filter Event.isVerdict).map Event.line = (s.log.filter Event.isVerdict).map Event.line ++
          (acts env patience probes statusFile s).filterMap Act.line?) := by
  have hlines : ((acts env patience probes statusFile s).filterMap Act.verdict?).map Event.line =
      (acts env patience probes statusFile s).filterMap Act.line? := by
    rw [List.map_filterMap]
    exact congrArg (List.filterMap · _) (funext fun a => (Act.line?_eq a).symm)
  have hverdicts := verdicts_own hload hrun
  have herrors := errors_own hload hrun
  obtain ⟨as, has, hcourse⟩ := (course_of_run hload hrun).answers
  rw [List.nil_append] at hcourse
  refine ⟨⟨log_of_run hload hrun, ?_, ?_, ?_, ?_, ?_⟩, ?_⟩
  · rw [hverdicts, hlines]
  · rintro failures rfl
    rcases hcourse with ⟨-, hacts, hr⟩ | ⟨f, rest, last, -, -, -, hr⟩
    · rw [herrors, hacts, verdicts_answers has, errors_of_answers, eq_of_verdict_eq hr.symm]
    · cases hr
  · rintro rfl
    rcases hcourse with ⟨hfs, hacts, hr⟩ | ⟨f, rest, last, -, -, -, hr⟩
    · have hnone := verdict_eq_ok_iff.mp hr.symm
      rw [hacts, verdicts_answers has] at hverdicts herrors
      rw [errors_of_answers, hnone, List.map_nil] at herrors
      refine ⟨?_, by rw [hverdicts, verdicts_of_passed hnone, hfs]⟩
      intro e he hlevel
      exact List.filter_eq_nil_iff.mp herrors e he (beq_iff_eq.mpr hlevel)
    · cases hr
  · rintro rfl
    rcases hcourse with ⟨-, -, hr⟩ | ⟨f, rest, last, hfs, hlast, hacts, -⟩
    · exact absurd hr.symm (verdict_ne_cancelled _)
    · refine ⟨f, rest, ?_⟩
      rw [hverdicts, hacts, List.filterMap_append, verdicts_answers has, hlast.verdicts,
        List.append_nil, features_of_answers, hfs]
  · rw [← preface_says_nothing_iff status statusFile, own_journal hload hrun]
    constructor
    · rintro ⟨e, he, hmessage⟩
      rcases List.mem_append.mp he with he | he
      · exact ⟨e, he, hmessage⟩
      · exact absurd hmessage (message_of_isVerdict (isVerdict_of_mem he))
    · rintro ⟨e, he, hmessage⟩
      exact ⟨e, List.mem_append_left _ he, hmessage⟩
  · intro hprobes
    rw [verdicts_of_run hload hrun hprobes, List.map_append, hlines]

/-- The token is fired by the second probe: its feature has no verdict and the failure of the first is
logged, though it is not reported. -/
theorem run_story_failThenFire :
    ∃ status s', FeatureStatus.load allEnabled "status" = .ok status ∧
      run .quiet 2 failThenFire "status" (.start ⟨allEnabled, ()⟩ false) =
        some (.error .cancelled, s') ∧
      Story status.enabled (acts .quiet 2 failThenFire "status" (.start ⟨allEnabled, ()⟩ false))
        (journal .quiet 2 failThenFire "status" (.start ⟨allEnabled, ()⟩ false)) [] s'.log
        (.error .cancelled) := by
  obtain ⟨status, s', hload, hrun⟩ := run_failThenFire
  exact ⟨status, s', hload, hrun, (run_story hload hrun).1⟩

end Validation

end DriverValidation
