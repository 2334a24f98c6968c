import DriverValidation.Validation

/-!
The acts of a validation: each look at the token and each poll of a probe, in the order in which they
happen. The acts are computed beside the run, from the same situations; an environment and probes that
keep a diary find an entry for each of them, and no others, in it.
-/

namespace DriverValidation

/-- One thing a validation does: it looks at the token as the turn of a feature begins or as the
feature's probe wakes up, or it polls the probe, which was polled `polls` times before. -/
inductive Act where
  | turn (f : Feature) (fired : Bool)
  | wakeUp (f : Feature) (fired : Bool)
  | poll (f : Feature) (polls : Nat) (told : Poll)

namespace Act

/-- The feature whose probe is entered, if this is its first poll. -/
def entrant? : Act → Option Feature
  | poll f 0 _ => some f
  | _ => none

/-- The features whose probes are entered, in order. -/
def entered (acts : List Act) : List Feature := acts.filterMap entrant?

def isPoll : Act → Bool
  | poll .. => true
  | _ => false

/-- The token is found fired, or a probe tells that it was cancelled. -/
def Cancels : Act → Prop
  | turn _ fired => fired = true
  | wakeUp _ fired => fired = true
  | poll _ _ told => told = .done (.error .cancelled)

@[simp] theorem entered_append (as bs : List Act) : entered (as ++ bs) = entered as ++ entered bs :=
  List.filterMap_append

/-- The acts of `n` wake-ups at which a probe is pending, of which the first is its poll `polls`. -/
def waiting (f : Feature) : Nat → Nat → List Act
  | _, 0 => []
  | polls, n + 1 => .wakeUp f false :: .poll f polls .pending :: waiting f (polls + 1) n

end Act

namespace Probe

variable {σ : Type}

/-- The acts of waiting for the probe of a feature. -/
def acts (env : Environment σ) (f : Feature) (probe : Probe σ) :
    Nat → Nat → Situation σ → List Act
  | 0, _, _ => []
  | patience + 1, polls, s =>
    let s := s.look env
    .wakeUp f s.fired ::
      if s.fired then []
      else
        let turn := probe polls s.fired s.host
        .poll f polls turn.poll ::
          match turn.poll with
          | .done _ => []
          | .pending => acts env f probe patience (polls + 1) (s.after turn)

section WakeUp

variable {env : Environment σ} {probe : Probe σ} {patience polls : Nat} {s s' : Situation σ}
  {result : ProbeResult}

theorem await_of_fired (hfired : (s.look env).fired = true) :
    probe.await env (patience + 1) polls s = some (.error .cancelled, s.look env) := by
  rw [await, if_pos hfired]

theorem await_of_done (hfired : (s.look env).fired = false)
    (hpoll : (probe polls false (s.look env).host).poll = .done result) :
    probe.await env (patience + 1) polls s =
      some (result, (s.look env).after (probe polls false (s.look env).host)) := by
  simp only [await, hfired, Bool.false_eq_true, if_false, hpoll]

theorem await_of_pending (hfired : (s.look env).fired = false)
    (hpoll : (probe polls false (s.look env).host).poll = .pending) :
    probe.await env (patience + 1) polls s = probe.await env patience (polls + 1)
      ((s.look env).after (probe polls false (s.look env).host)) := by
  simp only [await, hfired, Bool.false_eq_true, if_false, hpoll]

theorem acts_of_fired (f : Feature) (hfired : (s.look env).fired = true) :
    probe.acts env f (patience + 1) polls s = [.wakeUp f true] := by
  rw [acts, if_pos hfired, hfired]

theorem acts_of_done (f : Feature) (hfired : (s.look env).fired = false)
    (hpoll : (probe polls false (s.look env).host).poll = .done result) :
    probe.acts env f (patience + 1) polls s =
      [.wakeUp f false, .poll f polls (.done result)] := by
  simp only [acts, hfired, Bool.false_eq_true, if_false, hpoll]

theorem acts_of_pending (f : Feature) (hfired : (s.look env).fired = false)
    (hpoll : (probe polls false (s.look env).host).poll = .pending) :
    probe.acts env f (patience + 1) polls s = .wakeUp f false :: .poll f polls .pending ::
      probe.acts env f patience (polls + 1)
        ((s.look env).after (probe polls false (s.look env).host)) := by
  simp only [acts, hfired, Bool.false_eq_true, if_false, hpoll]

/-- A wake-up: the token is found fired, or the probe has its result, or it is waited for again. -/
theorem await_cases (hawait : probe.await env (patience + 1) polls s = some (result, s')) :
    ((s.look env).fired = true ∧ result = .error .cancelled ∧ s' = s.look env) ∨
    ((s.look env).fired = false ∧ (probe polls false (s.look env).host).poll = .done result ∧
      s' = (s.look env).after (probe polls false (s.look env).host)) ∨
    ((s.look env).fired = false ∧ (probe polls false (s.look env).host).poll = .pending ∧
      probe.await env patience (polls + 1)
        ((s.look env).after (probe polls false (s.look env).host)) = some (result, s')) := by
  cases hfired : (s.look env).fired with
  | true =>
      rw [await_of_fired hfired] at hawait
      obtain ⟨rfl, rfl⟩ := Prod.mk.inj (Option.some.inj hawait)
      exact Or.inl ⟨rfl, rfl, rfl⟩
  | false =>
      refine Or.inr ?_
      cases hpoll : (probe polls false (s.look env).host).poll with
      | done r =>
          rw [await_of_done hfired hpoll] at hawait
          obtain ⟨rfl, rfl⟩ := Prod.mk.inj (Option.some.inj hawait)
          exact Or.inl ⟨rfl, rfl, rfl⟩
      | pending =>
          rw [await_of_pending hfired hpoll] at hawait
          exact Or.inr ⟨rfl, rfl, hawait⟩

/-- Waiting for a probe comes down to some wake-ups at which it is pending and a last one, at which
the token is found fired or the probe has its result. -/
theorem acts_of_await (f : Feature) (hawait : probe.await env patience polls s = some (result, s')) :
    ∃ n, (probe.acts env f patience polls s = Act.waiting f polls n ++ [.wakeUp f true] ∧
        result = .error .cancelled) ∨
      probe.acts env f patience polls s =
        Act.waiting f polls n ++ [.wakeUp f false, .poll f (polls + n) (.done result)] := by
  induction patience generalizing polls s with
  | zero => cases hawait
  | succ patience ih =>
      rcases await_cases hawait with ⟨hfired, rfl, -⟩ | ⟨hfired, hpoll, -⟩ |
        ⟨hfired, hpoll, hrest⟩
      · exact ⟨0, Or.inl ⟨acts_of_fired f hfired, rfl⟩⟩
      · exact ⟨0, Or.inr (acts_of_done f hfired hpoll)⟩
      · rw [acts_of_pending f hfired hpoll]
        obtain ⟨n, ⟨hacts, hresult⟩ | hacts⟩ := ih hrest
        · exact ⟨n + 1, Or.inl ⟨by rw [hacts]; rfl, hresult⟩⟩
        · refine ⟨n + 1, Or.inr ?_⟩
          rw [hacts, Nat.add_right_comm, Nat.add_assoc]
          rfl

end WakeUp

end Probe

namespace Validation

variable {σ : Type}

/-- The acts of probing features in turn. -/
def actsOn (env : Environment σ) (patience : Nat) (probes : Feature → Probe σ) :
    List Feature → Situation σ → List Act
  | [], _ => []
  | f :: fs, s =>
    let s := s.look env
    .turn f s.fired ::
      if s.fired then []
      else
        (probes f).acts env f patience 0 s ++
          match (probes f).await env patience 0 s with
          | none => []
          | some (.ok (), s) => actsOn env patience probes fs (s.note [.featureValidated f])
          | some (.error .cancelled, _) => []
          | some (.error e, s) => actsOn env patience probes fs (s.note [.featureFailed ⟨f, e⟩])

def acts (env : Environment σ) (patience : Nat) (probes : Feature → Probe σ) (statusFile : String)
    (s : Situation σ) : List Act :=
  match FeatureStatus.load s.host.tree statusFile with
  | .error _ => []
  | .ok status => actsOn env patience probes status.enabled (s.note [status.loadedEvent statusFile])

/-- The failures that the result of a feature's probe adds: one, unless it passed. -/
def failuresOf (f : Feature) : ProbeResult → List FeatureFailure
  | .ok () => []
  | .error e => [⟨f, e⟩]

/-- What is logged of the result of a feature's probe. -/
def eventOf (f : Feature) : ProbeResult → Event
  | .ok () => .featureValidated f
  | .error e => .featureFailed ⟨f, e⟩

section Step

variable {env : Environment σ} {patience : Nat} {probes : Feature → Probe σ} {f : Feature}
  {fs : List Feature} {failures : List FeatureFailure} {s s₁ : Situation σ} {result : ProbeResult}

theorem probeAll_cons_of_fired (hfired : (s.look env).fired = true) :
    probeAll env patience probes (f :: fs) failures s = some (.error .cancelled, s.look env) := by
  rw [probeAll, if_pos hfired]

theorem probeAll_cons_of_none (hfired : (s.look env).fired = false)
    (hawait : (probes f).await env patience 0 (s.look env) = none) :
    probeAll env patience probes (f :: fs) failures s = none := by
  rw [probeAll, if_neg (by rw [hfired]; exact Bool.false_ne_true), hawait]

theorem probeAll_cons_of_cancelled (hfired : (s.look env).fired = false)
    (hawait : (probes f).await env patience 0 (s.look env) = some (.error .cancelled, s₁)) :
    probeAll env patience probes (f :: fs) failures s = some (.error .cancelled, s₁) := by
  rw [probeAll, if_neg (by rw [hfired]; exact Bool.false_ne_true), hawait]

theorem probeAll_cons_of_answer (hfired : (s.look env).fired = false)
    (hawait : (probes f).await env patience 0 (s.look env) = some (result, s₁))
    (hresult : result ≠ .error .cancelled) :
    probeAll env patience probes (f :: fs) failures s =
      probeAll env patience probes fs (failures ++ failuresOf f result)
        (s₁.note [eventOf f result]) := by
  rw [probeAll, if_neg (by rw [hfired]; exact Bool.false_ne_true), hawait]
  rcases result with e | ⟨⟩
  · cases e with
    | cancelled => exact absurd rfl hresult
    | failed | spawn | exit | timeout => rfl
  · rw [failuresOf, List.append_nil]
    rfl

theorem actsOn_cons_of_fired (hfired : (s.look env).fired = true) :
    actsOn env patience probes (f :: fs) s = [.turn f true] := by
  rw [actsOn, if_pos hfired, hfired]

theorem actsOn_cons_of_none (hfired : (s.look env).fired = false)
    (hawait : (probes f).await env patience 0 (s.look env) = none) :
    actsOn env patience probes (f :: fs) s =
      .turn f false :: (probes f).acts env f patience 0 (s.look env) := by
  rw [actsOn, if_neg (by rw [hfired]; exact Bool.false_ne_true), hawait, hfired, List.append_nil]

theorem actsOn_cons_of_cancelled (hfired : (s.look env).fired = false)
    (hawait : (probes f).await env patience 0 (s.look env) = some (.error .cancelled, s₁)) :
    actsOn env patience probes (f :: fs) s =
      .turn f false :: (probes f).acts env f patience 0 (s.look env) := by
  rw [actsOn, if_neg (by rw [hfired]; exact Bool.false_ne_true), hawait, hfired, List.append_nil]

theorem actsOn_cons_of_answer (hfired : (s.look env).fired = false)
    (hawait : (probes f).await env patience 0 (s.look env) = some (result, s₁))
    (hresult : result ≠ .error .cancelled) :
    actsOn env patience probes (f :: fs) s =
      .turn f false :: (probes f).acts env f patience 0 (s.look env) ++
        actsOn env patience probes fs (s₁.note [eventOf f result]) := by
  rw [actsOn, if_neg (by rw [hfired]; exact Bool.false_ne_true), hawait, hfired]
  rcases result with e | ⟨⟩
  · cases e with
    | cancelled => exact absurd rfl hresult
    | failed | spawn | exit | timeout => rfl
  · rfl

/-- The turn of a feature in a run that comes to an end: the run is cancelled as the turn begins or by
the feature's probe, or the probe has another result and the run goes on. -/
theorem probeAll_cons_cases {s' : Situation σ} {r : Result}
    (hrun : probeAll env patience probes (f :: fs) failures s = some (r, s')) :
    ((s.look env).fired = true ∧ r = .error .cancelled ∧ s' = s.look env) ∨
    ((s.look env).fired = false ∧ r = .error .cancelled ∧
      (probes f).await env patience 0 (s.look env) = some (.error .cancelled, s')) ∨
    ∃ result s₁, (s.look env).fired = false ∧ result ≠ .error .cancelled ∧
      (probes f).await env patience 0 (s.look env) = some (result, s₁) ∧
      probeAll env patience probes fs (failures ++ failuresOf f result)
        (s₁.note [eventOf f result]) = some (r, s') := by
  cases hfired : (s.look env).fired with
  | true =>
      rw [probeAll_cons_of_fired hfired] at hrun
      obtain ⟨rfl, rfl⟩ := Prod.mk.inj (Option.some.inj hrun)
      exact Or.inl ⟨rfl, rfl, rfl⟩
  | false =>
      refine Or.inr ?_
      cases hawait : (probes f).await env patience 0 (s.look env) with
      | none =>
          rw [probeAll_cons_of_none hfired hawait] at hrun
          cases hrun
      | some answer =>
          obtain ⟨result, s₁⟩ := answer
          by_cases hresult : result = .error .cancelled
          · subst result
            rw [probeAll_cons_of_cancelled hfired hawait] at hrun
            obtain ⟨rfl, rfl⟩ := Prod.mk.inj (Option.some.inj hrun)
            exact Or.inl ⟨rfl, rfl, rfl⟩
          · rw [probeAll_cons_of_answer hfired hawait hresult] at hrun
            exact Or.inr ⟨result, s₁, rfl, hresult, rfl, hrun⟩

end Step

/-- A feature whose probe had a result, after `waits` polls at which it was pending. -/
structure Answer where
  feature : Feature
  waits : Nat
  result : ProbeResult

namespace Answer

def acts (a : Answer) : List Act :=
  .turn a.feature false :: (Act.waiting a.feature 0 a.waits ++
    [.wakeUp a.feature false, .poll a.feature a.waits (.done a.result)])

end Answer

/-- The acts of a turn with which a validation is cancelled: the token is found fired as the turn
begins or at a wake-up, or the probe tells that it was cancelled. -/
inductive BrokenOff (f : Feature) : List Act → Prop
  | atTurn : BrokenOff f [.turn f true]
  | atWakeUp (n : Nat) : BrokenOff f (.turn f false :: (Act.waiting f 0 n ++ [.wakeUp f true]))
  | byProbe (n : Nat) : BrokenOff f (.turn f false :: (Act.waiting f 0 n ++
      [.wakeUp f false, .poll f n (.done (.error .cancelled))]))

/-- The courses that probing features can take after some failures: which acts lead to which
result. -/
inductive Course : List Feature → List FeatureFailure → List Act → Result → Prop
  | finished {failures : List FeatureFailure} : Course [] failures [] (verdict failures)
  | brokenOff {f : Feature} {fs : List Feature} {failures : List FeatureFailure} {last : List Act} :
      BrokenOff f last → Course (f :: fs) failures last (.error .cancelled)
  | answered (a : Answer) {fs : List Feature} {failures : List FeatureFailure} {rest : List Act}
      {r : Result} : a.result ≠ .error .cancelled →
      Course fs (failures ++ failuresOf a.feature a.result) rest r →
      Course (a.feature :: fs) failures (a.acts ++ rest) r

/-- A run that comes to an end takes one of the courses. -/
theorem course_of_probeAll (env : Environment σ) (patience : Nat) (probes : Feature → Probe σ)
    {fs : List Feature} {failures : List FeatureFailure} {s s' : Situation σ} {r : Result}
    (hrun : probeAll env patience probes fs failures s = some (r, s')) :
    Course fs failures (actsOn env patience probes fs s) r := by
  induction fs generalizing failures s with
  | nil =>
      obtain ⟨rfl, -⟩ := Prod.mk.inj (Option.some.inj hrun)
      exact .finished
  | cons f fs ih =>
      rcases probeAll_cons_cases hrun with ⟨hfired, rfl, -⟩ | ⟨hfired, rfl, hawait⟩ |
        ⟨result, s₁, hfired, hresult, hawait, hrest⟩
      · rw [actsOn_cons_of_fired hfired]
        exact .brokenOff .atTurn
      · rw [actsOn_cons_of_cancelled hfired hawait]
        obtain ⟨n, ⟨hacts, -⟩ | hacts⟩ := Probe.acts_of_await f hawait
        · rw [hacts]
          exact .brokenOff (.atWakeUp n)
        · rw [hacts, Nat.zero_add]
          exact .brokenOff (.byProbe n)
      · rw [actsOn_cons_of_answer hfired hawait hresult]
        obtain ⟨n, ⟨-, hcancelled⟩ | hacts⟩ := Probe.acts_of_await f hawait
        · exact absurd hcancelled hresult
        · rw [hacts, Nat.zero_add]
          exact .answered ⟨f, n, result⟩ hresult (ih hrest)

/-- A validation whose status file loads takes one of the courses on the enabled features. -/
theorem course_of_run {env : Environment σ} {patience : Nat} {probes : Feature → Probe σ}
    {statusFile : String} {status : FeatureStatus} {s s' : Situation σ} {r : Result}
    (hload : FeatureStatus.load s.host.tree statusFile = .ok status)
    (hrun : run env patience probes statusFile s = some (r, s')) :
    Course status.enabled [] (acts env patience probes statusFile s) r := by
  simp only [run, hload] at hrun
  simp only [acts, hload]
  cases hfs : status.enabled with
  | nil =>
      rw [hfs] at hrun
      obtain ⟨rfl, -⟩ := Prod.mk.inj (Option.some.inj hrun)
      exact .finished
  | cons f fs =>
      rw [hfs] at hrun
      exact course_of_probeAll env patience probes hrun

end Validation

end DriverValidation
