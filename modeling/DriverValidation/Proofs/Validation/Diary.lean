import DriverValidation.Proofs.Validation.Acts

/-!
Diaries of a validation, kept by those that it deals with. The environment writes down each look at the
token and each probe each of its polls, as they happen, into the state of the host. A diary does not
tell whether the token was looked at as a turn began or at a wake-up. Apart from that it has one entry
for each act of the run and no others, and keeping it changes nothing else.
-/

namespace DriverValidation

variable {σ : Type}

/-- What stands in a diary of one act: whether the token was found fired, or what a probe told. -/
inductive Diary.Entry where
  | look (fired : Bool)
  | poll (f : Feature) (polls : Nat) (told : Poll)

/-- The entries so far, and whether the token is fired as far as those who write them know. -/
structure Diary where
  fired : Bool
  entries : List Diary.Entry

namespace Diary

def look (diary : Diary) (fires : Bool) : Diary :=
  let fired := diary.fired || fires
  ⟨fired, diary.entries ++ [.look fired]⟩

def poll (diary : Diary) (f : Feature) (polls : Nat) (turn : Turn σ) : Diary :=
  ⟨diary.fired || turn.fires, diary.entries ++ [.poll f polls turn.poll]⟩

end Diary

def Act.entry : Act → Diary.Entry
  | turn _ fired => .look fired
  | wakeUp _ fired => .look fired
  | poll f polls told => .poll f polls told

/-- The host with a diary beside its state. -/
def Host.withDiary (host : Host σ) (diary : Diary) : Host (σ × Diary) :=
  ⟨host.tree, host.state, diary⟩

def Host.withoutDiary (host : Host (σ × Diary)) : Host σ := ⟨host.tree, host.state.1⟩

/-- The environment that writes down each look at the token. -/
def Environment.writingDiary (env : Environment σ) : Environment (σ × Diary) := fun looks host =>
  let (fires, host') := env looks host.withoutDiary
  (fires, host'.withDiary (host.state.2.look fires))

/-- The probe of a feature that writes down each of its polls. -/
def Probe.writingDiary (f : Feature) (probe : Probe σ) : Probe (σ × Diary) := fun polls fired host =>
  let turn := probe polls fired host.withoutDiary
  ⟨turn.poll, turn.fires, turn.host.withDiary (host.state.2.poll f polls turn), turn.log⟩

namespace Situation

def withDiary (s : Situation σ) (entries : List Diary.Entry) : Situation (σ × Diary) :=
  ⟨s.host.withDiary ⟨s.fired, entries⟩, s.fired, s.looks, s.log⟩

theorem look_withDiary (env : Environment σ) (s : Situation σ) (entries : List Diary.Entry) :
    (s.withDiary entries).look env.writingDiary =
      (s.look env).withDiary (entries ++ [.look (s.look env).fired]) := rfl

theorem fired_look_withDiary (env : Environment σ) (s : Situation σ) (entries : List Diary.Entry) :
    ((s.withDiary entries).look env.writingDiary).fired = (s.look env).fired := rfl

theorem after_withDiary (f : Feature) (probe : Probe σ) (polls : Nat) (fired : Bool)
    (s : Situation σ) (entries : List Diary.Entry) :
    (s.withDiary entries).after (probe.writingDiary f polls fired (s.withDiary entries).host) =
      (s.after (probe polls fired s.host)).withDiary
        (entries ++ [.poll f polls (probe polls fired s.host).poll]) := rfl

end Situation

theorem Probe.await_writingDiary (env : Environment σ) (f : Feature) (probe : Probe σ)
    (patience polls : Nat) (s : Situation σ) (entries : List Diary.Entry) :
    (probe.writingDiary f).await env.writingDiary patience polls (s.withDiary entries) =
      (probe.await env patience polls s).map fun answer => (answer.1, answer.2.withDiary
        (entries ++ (probe.acts env f patience polls s).map Act.entry)) := by
  induction patience generalizing polls s entries with
  | zero => rfl
  | succ patience ih =>
      -- the token is found the same with a diary and without, and the probe tells the same
      have hsame := s.fired_look_withDiary env entries
      have htold : (probe.writingDiary f polls false
          ((s.withDiary entries).look env.writingDiary).host).poll =
        (probe polls false (s.look env).host).poll := rfl
      have hlook := s.look_withDiary env entries
      cases hfired : (s.look env).fired with
      | true =>
          rw [await_of_fired (hsame.trans hfired), await_of_fired hfired, acts_of_fired f hfired, hlook,
            hfired]
          rfl
      | false =>
          have hafter := (s.look env).after_withDiary f probe polls false (entries ++ [.look false])
          rw [hfired] at hlook
          cases hpoll : (probe polls false (s.look env).host).poll with
          | done result =>
              rw [await_of_done (hsame.trans hfired) (htold.trans hpoll), await_of_done hfired hpoll,
                acts_of_done f hfired hpoll, hlook, hafter, hpoll, List.append_assoc]
              rfl
          | pending =>
              rw [await_of_pending (hsame.trans hfired) (htold.trans hpoll),
                await_of_pending hfired hpoll, acts_of_pending f hfired hpoll, hlook, hafter, hpoll, ih]
              simp only [List.append_assoc]
              rfl

namespace Validation

theorem probeAll_writingDiary (env : Environment σ) (patience : Nat) (probes : Feature → Probe σ)
    (fs : List Feature) (failures : List FeatureFailure) (s : Situation σ)
    (entries : List Diary.Entry) :
    probeAll env.writingDiary patience (fun f => (probes f).writingDiary f) fs failures
        (s.withDiary entries) =
      (probeAll env patience probes fs failures s).map fun outcome => (outcome.1,
        outcome.2.withDiary (entries ++ (actsOn env patience probes fs s).map Act.entry)) := by
  induction fs generalizing failures s entries with
  | nil => simp [probeAll, actsOn]
  | cons f fs ih =>
      have hsame := s.fired_look_withDiary env entries
      have hlook := s.look_withDiary env entries
      cases hfired : (s.look env).fired with
      | true =>
          rw [probeAll_cons_of_fired (hsame.trans hfired), probeAll_cons_of_fired hfired,
            actsOn_cons_of_fired hfired, hlook, hfired]
          rfl
      | false =>
          have hturn := Probe.await_writingDiary env f (probes f) patience 0 (s.look env)
            (entries ++ [.look false])
          rw [hfired] at hlook
          rw [← hlook] at hturn
          cases hawait : (probes f).await env patience 0 (s.look env) with
          | none =>
              rw [hawait] at hturn
              rw [probeAll_cons_of_none (hsame.trans hfired) hturn, probeAll_cons_of_none hfired hawait]
              rfl
          | some answer =>
              obtain ⟨result, s₁⟩ := answer
              rw [hawait] at hturn
              by_cases hresult : result = .error .cancelled
              · subst result
                rw [probeAll_cons_of_cancelled (hsame.trans hfired) hturn,
                  probeAll_cons_of_cancelled hfired hawait, actsOn_cons_of_cancelled hfired hawait,
                  List.append_assoc]
                rfl
              · rw [probeAll_cons_of_answer (hsame.trans hfired) hturn hresult,
                  probeAll_cons_of_answer hfired hawait hresult,
                  actsOn_cons_of_answer hfired hawait hresult]
                apply (ih (failures ++ failuresOf f result) (s₁.note [eventOf f result]) _).trans
                simp only [List.append_assoc, List.map_append]
                rfl

/-- The diary of a run has an entry for each of its acts and no others, and keeping it changes neither
the result nor, the diary apart, how things stand then. -/
theorem run_writingDiary (env : Environment σ) (patience : Nat) (probes : Feature → Probe σ)
    (statusFile : String) (s : Situation σ) (entries : List Diary.Entry) :
    run env.writingDiary patience (fun f => (probes f).writingDiary f) statusFile
        (s.withDiary entries) =
      (run env patience probes statusFile s).map fun outcome => (outcome.1,
        outcome.2.withDiary (entries ++ (acts env patience probes statusFile s).map Act.entry)) := by
  have htree : (s.withDiary entries).host.tree = s.host.tree := rfl
  rw [run, run, acts, htree]
  cases FeatureStatus.load s.host.tree statusFile with
  | error e => simp
  | ok status =>
      dsimp only
      cases hfs : status.enabled with
      | nil =>
          simp only [List.isEmpty_nil, if_true, actsOn, List.map_nil, List.append_nil]
          rfl
      | cons f fs =>
          exact probeAll_writingDiary env patience probes (f :: fs) []
            (s.note [status.loadedEvent statusFile]) entries

/-- A diary that is begun with a run has the acts of the run in it when the run ends. -/
theorem run_withDiary_nil {env : Environment σ} {patience : Nat} {probes : Feature → Probe σ}
    {statusFile : String} {s s' : Situation σ} {r : Result}
    (hrun : run env patience probes statusFile s = some (r, s')) :
    run env.writingDiary patience (fun f => (probes f).writingDiary f) statusFile (s.withDiary []) =
      some (r, s'.withDiary ((acts env patience probes statusFile s).map Act.entry)) := by
  rw [run_writingDiary, hrun]
  rfl

end Validation

end DriverValidation
