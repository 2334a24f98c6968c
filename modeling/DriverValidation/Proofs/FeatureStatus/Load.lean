import DriverValidation.Proofs.FeatureStatus.Judgement
import DriverValidation.Proofs.Probe.Command
import DriverValidation.Proofs.Text.Utf8
import DriverValidation.Proofs.Validation.Acts

/-!
Loading a status file. The bytes of a text are judged as that text, from the first to the last, and
bytes that are no text are rejected with the place up to which they are one. A file that cannot be
read is unavailable and no other is. One event is logged for each status that is loaded, and none
else.
-/

namespace DriverValidation

open Text.Utf8 (encode)

/-! ## What is logged of loading -/

/-- What an event tells of a status that was loaded: the path, the number of entries, and the
enabled features. -/
def Event.load? : Event → Option (String × Nat × List Feature)
  | statusLoaded path entries enabled => some (path, entries, enabled)
  | _ => none

/-- What a log tells of the statuses that were loaded, in order. -/
def loads (log : List Event) : List (String × Nat × List Feature) := log.filterMap Event.load?

@[simp] theorem loads_append (log more : List Event) :
    loads (log ++ more) = loads log ++ loads more :=
  List.filterMap_append

section Log

variable {σ : Type} {env : Environment σ} {patience : Nat} {s s' : Situation σ}

/-- A probe that does not log that it loads a status. -/
def Probe.LogsNoLoad (probe : Probe σ) : Prop :=
  ∀ polls fired host, loads (probe polls fired host).log = []

namespace Probe

theorem loads_await {probe : Probe σ} {polls : Nat} {result : ProbeResult}
    (hprobe : probe.LogsNoLoad) (hawait : probe.await env patience polls s = some (result, s')) :
    loads s'.log = loads s.log := by
  induction patience generalizing polls s with
  | zero => cases hawait
  | succ patience ih =>
      have hafter : loads ((s.look env).after (probe polls false (s.look env).host)).log =
          loads s.log := by
        show loads (s.log ++ _) = _
        rw [loads_append, hprobe, List.append_nil]
      rcases await_cases hawait with ⟨-, -, rfl⟩ | ⟨-, -, rfl⟩ | ⟨-, -, hrest⟩
      · rfl
      · exact hafter
      · exact (ih hrest).trans hafter

/-- The probes that run commands load no status. -/
theorem ofCommand_logsNoLoad (commands : Commands σ) (argv : List String) (limit : Duration) :
    (ofCommand commands argv limit).LogsNoLoad := by
  intro polls fired host
  refine List.filterMap_eq_nil_iff.mpr fun e he => ?_
  rw [eq_probeStarted_of_mem he]
  rfl

end Probe

namespace Validation

variable {probes : Feature → Probe σ} {statusFile : String} {r : Result}

theorem loads_probeAll {fs : List Feature} {failures : List FeatureFailure}
    (hprobes : ∀ f, (probes f).LogsNoLoad)
    (hrun : probeAll env patience probes fs failures s = some (r, s')) :
    loads s'.log = loads s.log := by
  induction fs generalizing failures s with
  | nil =>
      obtain ⟨-, rfl⟩ := Prod.mk.inj (Option.some.inj hrun)
      rfl
  | cons f fs ih =>
      rcases probeAll_cons_cases hrun with ⟨-, -, rfl⟩ | ⟨-, -, hawait⟩ |
        ⟨result, s₁, -, -, hawait, hrest⟩
      · rfl
      · exact Probe.loads_await (s := s.look env) (hprobes f) hawait
      · have hevent : loads [eventOf f result] = [] := by rcases result with e | ⟨⟩ <;> rfl
        rw [ih hrest]
        show loads (s₁.log ++ _) = _
        rw [loads_append, hevent, List.append_nil]
        exact Probe.loads_await (s := s.look env) (hprobes f) hawait

/-- A validation adds to what the log tells of loading what loading the status file logs. -/
theorem loads_run (hprobes : ∀ f, (probes f).LogsNoLoad)
    (hrun : run env patience probes statusFile s = some (r, s')) :
    loads s'.log = loads s.log ++
      loads (FeatureStatus.loadEvents statusFile (FeatureStatus.load s.host.tree statusFile)) := by
  rw [run] at hrun
  cases hload : FeatureStatus.load s.host.tree statusFile with
  | error e =>
      rw [hload] at hrun
      obtain ⟨-, rfl⟩ := Prod.mk.inj (Option.some.inj hrun)
      exact (List.append_nil _).symm
  | ok status =>
      rw [hload] at hrun
      dsimp only at hrun
      split at hrun
      · obtain ⟨-, rfl⟩ := Prod.mk.inj (Option.some.inj hrun)
        show loads (s.log ++ _ ++ _) = _
        rw [loads_append, loads_append]
        exact List.append_nil _
      · rw [loads_probeAll hprobes hrun]
        exact loads_append _ _

end Validation

end Log

namespace FeatureStatus

variable {t : Files.Tree} {path : String} {bytes : List UInt8}

/-! ## From bytes to a status -/

theorem load_of_read_error {e : IoError} (hread : t.read path = .error e) :
    load t path = .error (.statusUnavailable path e) := by
  rw [load, hread]

theorem load_of_text {s : String} (hread : t.read path = .ok (encode s)) :
    load t path = parse path s := by
  rw [load, hread]
  dsimp only
  rw [ofBytes, Text.Utf8.decode_encode]
  rfl

theorem load_of_fault {fault : Text.Utf8.Fault} (hread : t.read path = .ok bytes)
    (hdecode : Text.Utf8.decode bytes = .error fault) :
    load t path = .error (.statusInvalid path (.notUtf8 fault)) := by
  rw [load, hread]
  dsimp only
  rw [ofBytes, hdecode]
  rfl

/-- Loading goes one of three ways: the file cannot be read, or it is a text and is parsed, or it is
none and is rejected with the fault in it. -/
theorem load_cases (t : Files.Tree) (path : String) :
    (∃ e, t.read path = .error e ∧ load t path = .error (.statusUnavailable path e)) ∨
    (∃ s, t.read path = .ok (encode s) ∧ load t path = parse path s) ∨
    ∃ bytes fault, t.read path = .ok bytes ∧ (∀ s, bytes ≠ encode s) ∧
      Text.Utf8.Locates bytes fault ∧
      load t path = .error (.statusInvalid path (.notUtf8 fault)) := by
  cases hread : t.read path with
  | error e => exact Or.inl ⟨e, rfl, load_of_read_error hread⟩
  | ok bytes =>
      refine Or.inr ?_
      rcases Text.Utf8.decode_cases bytes with ⟨s, rfl, -⟩ | ⟨fault, hdecode, hlocates⟩
      · exact Or.inl ⟨s, rfl, load_of_text hread⟩
      · refine Or.inr ⟨bytes, fault, rfl, ?_, hlocates, load_of_fault hread hdecode⟩
        rintro s rfl
        rw [Text.Utf8.decode_encode] at hdecode
        cases hdecode

/-! ## Loading is exact -/

/-- The reason why bytes with a fault are rejected tells whether their end alone is missing. -/
theorem message_of_locates {fault : Text.Utf8.Fault} (hlocates : Text.Utf8.Locates bytes fault) :
    ((∃ more s, bytes ++ more = encode s) → (Reason.notUtf8 fault).message =
      s!"not valid UTF-8: incomplete utf-8 byte sequence from index {fault.index}") ∧
    ((¬∃ more s, bytes ++ more = encode s) → ∃ n : Nat, (Reason.notUtf8 fault).message =
      s!"not valid UTF-8: invalid utf-8 sequence of {n} bytes from index {fault.index}") := by
  rcases fault with ⟨index, _ | n⟩
  · exact ⟨fun _ => rfl, fun hcut => absurd (hlocates.cut_iff.mp rfl) hcut⟩
  · exact ⟨fun hcut => absurd (hlocates.cut_iff.mpr hcut) nofun, fun _ => ⟨n, rfl⟩⟩

/-- What a log tells when loading the status at a path has the given outcome. -/
def toldOf (path : String) : Except ValidationError FeatureStatus →
    List (String × Nat × List Feature)
  | .ok status => [(path, status.entries.length, status.enabled)]
  | .error _ => []

theorem loads_loadEvents (outcome : Except ValidationError FeatureStatus) :
    loads (loadEvents path outcome) = toldOf path outcome := by
  cases outcome <;> rfl

/-- Loading the file at a path depends on all of its bytes: those of a text are judged as that text
is, and those of no text are rejected with the place up to which they are one. The file is
unavailable exactly if it cannot be read, and a validation logs a load exactly if it succeeded. -/
structure LoadsExactly (t : Files.Tree) (path : String) : Prop where
  text : ∀ s, t.read path = .ok (encode s) → load t path = parse path s
  noText : ∀ bytes, t.read path = .ok bytes → (∀ s, bytes ≠ encode s) → ∃ fault,
    load t path = .error (.statusInvalid path (.notUtf8 fault)) ∧
    (∃ s, encode s <+: bytes ∧ (encode s).length = fault.index) ∧
    (∀ s, encode s <+: bytes → (encode s).length ≤ fault.index) ∧
    ((∃ more s, bytes ++ more = encode s) → (Reason.notUtf8 fault).message =
      s!"not valid UTF-8: incomplete utf-8 byte sequence from index {fault.index}") ∧
    ((¬∃ more s, bytes ++ more = encode s) → ∃ n : Nat, (Reason.notUtf8 fault).message =
      s!"not valid UTF-8: invalid utf-8 sequence of {n} bytes from index {fault.index}")
  unavailable_iff : ∀ path' e,
    load t path = .error (.statusUnavailable path' e) ↔ path' = path ∧ t.read path = .error e
  whole : ∀ status, load t path = .ok status →
    ∃ s, t.read path = .ok (encode s) ∧ parse path s = .ok status
  logged : ∀ {σ : Type} (env : Environment σ) (patience : Nat) (probes : Feature → Probe σ)
    (s s' : Situation σ) (r : Validation.Result), s.host.tree = t → (∀ f, (probes f).LogsNoLoad) →
    Validation.run env patience probes path s = some (r, s') →
    loads s'.log = loads s.log ++ toldOf path (load t path)

theorem parse_ne_unavailable {s path' : String} {e : IoError} :
    parse path s ≠ .error (.statusUnavailable path' e) := by
  rw [parse]
  cases ofText s with
  | error reason => exact nofun
  | ok status => exact nofun

theorem load_exact (t : Files.Tree) (path : String) : LoadsExactly t path where
  text _ hread := load_of_text hread
  noText bytes hread hbytes := by
    rcases load_cases t path with ⟨e, herror, -⟩ | ⟨s, hs, -⟩ |
      ⟨bytes', fault, hok, -, hlocates, hload⟩
    · rw [hread] at herror
      cases herror
    · rw [hread] at hs
      exact absurd (Except.ok.inj hs) (hbytes s)
    · rw [hread] at hok
      obtain rfl := Except.ok.inj hok
      exact ⟨fault, hload, hlocates.text, hlocates.longest, message_of_locates hlocates⟩
  unavailable_iff path' e := by
    constructor
    · intro hload
      rcases load_cases t path with ⟨e', hread, herror⟩ | ⟨s, -, hparse⟩ |
        ⟨-, fault, -, -, -, hfault⟩
      · rw [hload] at herror
        obtain ⟨rfl, rfl⟩ := ValidationError.statusUnavailable.inj (Except.error.inj herror)
        exact ⟨rfl, hread⟩
      · rw [hload] at hparse
        exact absurd hparse.symm parse_ne_unavailable
      · rw [hload] at hfault
        cases hfault
    · rintro ⟨rfl, hread⟩
      exact load_of_read_error hread
  whole status hload := by
    rcases load_cases t path with ⟨e, -, herror⟩ | ⟨s, hread, hparse⟩ | ⟨-, fault, -, -, -, hfault⟩
    · rw [hload] at herror
      cases herror
    · exact ⟨s, hread, hparse.symm.trans hload⟩
    · rw [hload] at hfault
      cases hfault
  logged env patience probes s s' r htree hprobes hrun := by
    rw [Validation.loads_run hprobes hrun, htree, loads_loadEvents]

end FeatureStatus

end DriverValidation
