import DriverValidation.Proofs.Validation.Preservation
import DriverValidation.Proofs.Validation.Verdict

/-!
With which errors a validation ends. A status error is the error of loading the status file: it
comes before the token is looked at and before any probe, whatever these would do. Every other error
is the cancellation, which names no feature, or reports failures: some enabled features, in their
order and each once, with what their probes told, which is never that they were cancelled.
-/

namespace DriverValidation

namespace Feature

/-- The place of a feature in the order in which features are probed and reported. -/
def rank (f : Feature) : Nat := all.idxOf f

theorem rank_increasing_of_sublist {fs : List Feature} (hfs : fs.Sublist all) :
    fs.Pairwise fun a b => a.rank < b.rank :=
  have hall : all.Pairwise fun a b => a.rank < b.rank := by decide
  hall.sublist hfs

end Feature

namespace Validation

variable {σ : Type} {env : Environment σ} {patience : Nat} {probes : Feature → Probe σ}
  {statusFile : String} {s s' : Situation σ} {r : Result}

/-! ## Failures and the answers they come from -/

theorem mem_failuresOf_iff {f : Feature} {result : ProbeResult} {x : FeatureFailure} :
    x ∈ failuresOf f result ↔ x.feature = f ∧ result = .error x.failure := by
  rcases result with e | ⟨⟩
  · rw [failuresOf, List.mem_singleton]
    constructor
    · rintro rfl
      exact ⟨rfl, rfl⟩
    · rintro ⟨rfl, he⟩
      rw [Except.error.inj he]
  · simp [failuresOf]

theorem features_failuresOf_sublist (f : Feature) (result : ProbeResult) :
    ((failuresOf f result).map (·.feature)).Sublist [f] := by
  rcases result with e | ⟨⟩
  · exact List.Sublist.refl _
  · exact List.nil_sublist _

/-- The features of which failures are reported are among those that were probed, in their order. -/
theorem features_failures_sublist (answers : List Answer) :
    ((answers.flatMap fun a => failuresOf a.feature a.result).map (·.feature)).Sublist
      (answers.map (·.feature)) := by
  induction answers with
  | nil => exact List.Sublist.refl _
  | cons a rest ih =>
      rw [List.flatMap_cons, List.map_append]
      exact (features_failuresOf_sublist a.feature a.result).append ih

/-! ## Errors -/

/-- Failures as a validation of a status reports them. -/
structure Reported (status : FeatureStatus) (failures : List FeatureFailure) : Prop where
  /-- There is something to report. -/
  nonempty : failures ≠ []
  /-- The features are in their order, and so each at most once. -/
  increasing : (failures.map (·.feature)).Pairwise fun a b => a.rank < b.rank
  /-- Their flags are set. -/
  enabled : ∀ x ∈ failures, status.get? x.feature.statusKey = some (.boolean true)
  /-- None of their probes was cancelled. -/
  not_cancelled : ∀ x ∈ failures, x.failure ≠ .cancelled

/-- What the answers of the probes of all enabled features give to report. -/
theorem reported_of_answers {status : FeatureStatus} {answers : List Answer}
    (hfs : answers.map (·.feature) = status.enabled)
    (hanswers : ∀ a ∈ answers, a.result ≠ .error .cancelled)
    (hsome : (answers.flatMap fun a => failuresOf a.feature a.result) ≠ []) :
    Reported status (answers.flatMap fun a => failuresOf a.feature a.result) where
  nonempty := hsome
  increasing := by
    have hsublist := features_failures_sublist answers
    rw [hfs] at hsublist
    exact Feature.rank_increasing_of_sublist (hsublist.trans status.enabled_sublist)
  enabled x hx := by
    obtain ⟨a, ha, hmem⟩ := List.mem_flatMap.mp hx
    obtain ⟨hfeature, -⟩ := mem_failuresOf_iff.mp hmem
    rw [← status.mem_enabled_iff, ← hfs, hfeature]
    exact List.mem_map_of_mem ha
  not_cancelled x hx hcancelled := by
    obtain ⟨a, ha, hmem⟩ := List.mem_flatMap.mp hx
    obtain ⟨-, hresult⟩ := mem_failuresOf_iff.mp hmem
    rw [hcancelled] at hresult
    exact hanswers a ha hresult

/-- A course through the enabled features that ends with an error is cancelled or has failures. -/
theorem Course.error_cases {status : FeatureStatus} {acts : List Act} {e : ValidationError}
    (hcourse : Course status.enabled [] acts (.error e)) :
    e = .cancelled ∨ ∃ failures, e = .featureValidation failures ∧ Reported status failures := by
  obtain ⟨answers, hanswers, ⟨hfs, -, hverdict⟩ | ⟨f, rest, last, -, -, -, hcancelled⟩⟩ :=
    hcourse.answers
  · rw [List.nil_append] at hverdict
    have hfailed : verdict (answers.flatMap fun a => failuresOf a.feature a.result) ≠ .ok () := by
      rw [← hverdict]
      exact nofun
    have hsome := fun hnone => hfailed (verdict_eq_ok_iff.mpr hnone)
    rw [verdict_of_ne_ok hfailed] at hverdict
    exact Or.inr ⟨_, Except.error.inj hverdict, reported_of_answers hfs hanswers hsome⟩
  · exact Or.inl (Except.error.inj hcancelled)

/-- A status file that cannot be loaded ends the validation at once. -/
theorem run_of_load_error (env : Environment σ) (patience : Nat) (probes : Feature → Probe σ)
    {e : ValidationError} (hload : FeatureStatus.load s.host.tree statusFile = .error e) :
    run env patience probes statusFile s = some (.error e, s) ∧
      acts env patience probes statusFile s = [] := by
  rw [run, acts, hload]
  exact ⟨rfl, rfl⟩

/-- What is to be said of the errors of a validation that started in one situation and ended in
another. -/
structure Classified (statusFile : String) (s : Situation σ) (acts : List Act) (r : Result)
    (s' : Situation σ) : Prop where
  /-- There is a status error exactly if the status file cannot be loaded. -/
  status_iff : (∃ e, r = .error e ∧ e.isStatusError = true) ↔
    ∃ e, FeatureStatus.load s.host.tree statusFile = .error e
  /-- Then it is the error of loading, the token was not looked at, no probe was polled, and all is
  as it was. -/
  of_load : ∀ e, FeatureStatus.load s.host.tree statusFile = .error e →
    r = .error e ∧ acts = [] ∧ s' = s
  /-- This is so whatever the environment and the probes are like, however long they are waited for,
  and whether or not the token was fired before. -/
  regardless : ∀ e, FeatureStatus.load s.host.tree statusFile = .error e →
    ∀ (env : Environment σ) (patience : Nat) (probes : Feature → Probe σ) (fired : Bool),
      run env patience probes statusFile { s with fired } = some (.error e, { s with fired })
  /-- Every other error is the cancellation, with which no feature is named, or reports failures of
  a status that was loaded. -/
  otherwise : ∀ e, r = .error e → e.isStatusError = false →
    (e = .cancelled ∧ e.failedFeatures = []) ∨
      ∃ status failures, FeatureStatus.load s.host.tree statusFile = .ok status ∧
        e = .featureValidation failures ∧ Reported status failures

/-- The errors of a validation that comes to an end are classified, whatever the files, the token,
the environment and the probes are like. -/
theorem run_classified (hrun : run env patience probes statusFile s = some (r, s')) :
    Classified statusFile s (acts env patience probes statusFile s) r s' := by
  cases hload : FeatureStatus.load s.host.tree statusFile with
  | error e =>
      obtain ⟨hend, hacts⟩ := run_of_load_error env patience probes hload
      rw [hrun] at hend
      obtain ⟨rfl, rfl⟩ := Prod.mk.inj (Option.some.inj hend)
      have hstatus := isStatusError_of_load hload
      refine ⟨⟨fun _ => ⟨e, hload⟩, fun _ => ⟨e, rfl, hstatus⟩⟩, ?_, ?_, ?_⟩
      · intro e' he'
        rw [hload] at he'
        exact ⟨congrArg _ (Except.error.inj he'), hacts, rfl⟩
      · intro e' he' env patience probes fired
        exact (run_of_load_error (s := { s' with fired }) env patience probes he').1
      · intro e' he' hother
        rw [← Except.error.inj he', hstatus] at hother
        cases hother
  | ok status =>
      have hnone : ¬∃ e, FeatureStatus.load s.host.tree statusFile = .error e := by
        rintro ⟨e, he⟩
        rw [hload] at he
        cases he
      have hcourse := course_of_run hload hrun
      refine ⟨⟨?_, fun he => absurd he hnone⟩, fun e he => absurd ⟨e, he⟩ hnone,
        fun e he => absurd ⟨e, he⟩ hnone, ?_⟩
      · rintro ⟨e, rfl, hstatus⟩
        rcases hcourse.error_cases with rfl | ⟨failures, rfl, -⟩ <;> cases hstatus
      · rintro e rfl -
        rcases hcourse.error_cases with rfl | ⟨failures, rfl, hreported⟩
        · exact Or.inl ⟨rfl, rfl⟩
        · exact Or.inr ⟨status, failures, hload, rfl, hreported⟩

/-- A run in which two of three probes fail, the first of them after it removed the status file. -/
theorem run_classified_failPassFail :
    ∃ s', run .quiet 2 failPassFail "status" (.start ⟨allEnabled, ()⟩ false) =
        some (.error (.featureValidation
          [⟨.gdrcopy, .failed "gdrdrv is not loaded"⟩,
            ⟨.gpuDirectRdma, .failed "nvidia_peermem is not loaded"⟩]), s') ∧
      Classified "status" (.start ⟨allEnabled, ()⟩ false)
        (acts .quiet 2 failPassFail "status" (.start ⟨allEnabled, ()⟩ false))
        (.error (.featureValidation [⟨.gdrcopy, .failed "gdrdrv is not loaded"⟩,
          ⟨.gpuDirectRdma, .failed "nvidia_peermem is not loaded"⟩])) s' := by
  obtain ⟨status, hload, henabled⟩ := load_allEnabled
  have hrun : ∃ s', run .quiet 2 failPassFail "status" (.start ⟨allEnabled, ()⟩ false) =
      some (.error (.featureValidation
        [⟨.gdrcopy, .failed "gdrdrv is not loaded"⟩,
          ⟨.gpuDirectRdma, .failed "nvidia_peermem is not loaded"⟩]), s') := by
    rw [run]
    dsimp only [Situation.start]
    rw [hload]
    dsimp only
    rw [henabled]
    exact ⟨_, rfl⟩
  obtain ⟨s', hrun⟩ := hrun
  exact ⟨s', hrun, run_classified hrun⟩

end Validation

end DriverValidation
