import DriverValidation.Proofs.Config.Fields
import DriverValidation.Proofs.Duration.RoundTrip
import DriverValidation.Proofs.Probe.Alone
import DriverValidation.Proofs.Toml.Line

/-!
The time limit that a failure tells. It is the limit that was configured: set to what is told, the limit
is the same again, and no two limits are told the same.
-/

namespace DriverValidation

/-! ## What a probe tells of its limit -/

namespace Probe

variable {σ : Type} {commands : Commands σ} {argv : List String} {limit : Duration} {host : Host σ}
  {command text : String} {polls : Nat} {fired : Bool}

theorem limit_of_watch {log : List Event} (hpoll :
    (watch commands argv limit fired host log).poll = .done (.error (.timeout command text))) :
    text = limit.toText := by
  rw [watch_eq_told, told_eq_done_iff] at hpoll
  generalize (commands.look host).1 = progress at hpoll
  cases hpoll
  rfl

/-- The limit that a probe tells is its own. -/
theorem limit_of_ofCommand (hpoll : (ofCommand commands argv limit polls fired host).poll =
    .done (.error (.timeout command text))) : text = limit.toText := by
  cases argv with
  | nil => cases hpoll
  | cons name operands =>
      cases polls with
      | succ polls => exact limit_of_watch hpoll
      | zero =>
          rw [ofCommand_zero (List.cons_ne_nil name operands)] at hpoll
          cases hstart : commands.start (name :: operands) limit host with
          | error e =>
              rw [hstart] at hpoll
              cases hpoll
          | ok host' =>
              rw [hstart] at hpoll
              exact limit_of_watch hpoll

theorem ofCommand_of_overdue (hargv : argv ≠ []) (hlook : (commands.look host).1 = ⟨none, true⟩) :
    (ofCommand commands argv limit (polls + 1) false host).poll =
      .done (.error (.timeout (Event.commandLine argv) limit.toText)) := by
  rw [ofCommand_succ hargv, hlook]
  rfl

end Probe

/-! ## A limit that is configured -/

namespace Config

/-- What is written of a span stands for itself between double quotes. -/
theorem plain_of_isWritten {c : Char} (hc : Duration.IsWritten c) : Toml.Text.isPlain c = true := by
  have hrange : c.toNat = 0x20 ∨ (0x30 ≤ c.toNat ∧ c.toNat ≤ 0x39) ∨
      (0x41 ≤ c.toNat ∧ c.toNat ≤ 0x5A) ∨ (0x61 ≤ c.toNat ∧ c.toNat ≤ 0x7A) ∨ c.toNat = 0xB5 := by
    rcases hc with hdigit | hletter | rfl
    · exact Or.inr (Or.inl (Text.toNat_of_isDigit hdigit))
    · exact Or.inr (Or.inr (Duration.toNat_of_isLetter hletter))
    · exact Or.inl rfl
  have hne : ∀ c', (c'.toNat = 0x22 ∨ c'.toNat = 0x5C) → c ≠ c' := by
    rintro c' hc' rfl
    omega
  refine Toml.Text.isPlain_iff.mpr ⟨?_, hne '"' (Or.inl rfl), hne '\\' (Or.inr rfl)⟩
  rw [Toml.Text.isContent, Bool.or_eq_true, Bool.and_eq_true, decide_eq_true_iff, bne_iff_ne]
  exact Or.inr (by omega)

def limitLine (d : Duration) : String := Toml.Document.entryLine "probe-timeout" d.toText

theorem read_limitLine (d : Duration) :
    Toml.Document.read (limitLine d) = .ok [("probe-timeout", .text d.toText)] := by
  refine Toml.Document.read_entryLine (by decide) (by decide) (List.all_eq_true.mpr fun c hc => ?_)
  exact plain_of_isWritten (d.isWritten_of_mem_toText hc)

/-- A document that gives the limit is read as it would be without it, and then has that limit. -/
theorem ofTable_of_limit {t : Toml.Table} {d : Duration}
    (hlimit : t.lookup "probe-timeout" = some (.text d.toText)) :
    ofTable t = (ofTable (t.filter (·.1 != "probe-timeout"))).map fun config =>
      { config with probeTimeout := d } := by
  have hkept : ∀ key, key ≠ "probe-timeout" →
      (t.filter (·.1 != "probe-timeout")).lookup key = t.lookup key := by
    intro key hkey
    rw [lookup_filter_key (· != "probe-timeout"), if_pos (bne_iff_ne.mpr hkey)]
  have hdropped : (t.filter (·.1 != "probe-timeout")).lookup "probe-timeout" = none := by
    rw [lookup_filter_key (· != "probe-timeout"), if_neg (by decide)]
  have hread : entry t "probe-timeout" standardTimeout durationOf = .ok d := by
    rw [entry_of_lookup hlimit, durationOf, Duration.ofText_toText]
    rfl
  have hstandard : entry (t.filter (·.1 != "probe-timeout")) "probe-timeout" standardTimeout
      durationOf = .ok standardTimeout := by
    rw [entry, hdropped]
  rw [ofTable, ofTable, hread, hstandard, entry_congr (hkept "status-file" (by decide)),
    entry_congr (hkept "output-dir" (by decide)), entry_congr (hkept "probes" (by decide))]
  rcases entry t "status-file" standardStatusFile textOf with _ | statusFile
  · rfl
  rcases entry t "output-dir" standardOutputDir textOf with _ | outputDir
  · rfl
  rcases entry t "probes" ProbeCommands.standard probesOf with _ | probes
  · rfl
  · rfl

/-- What a failure tells of a time limit is the limit that was meant. -/
structure LimitShown (d : Duration) : Prop where
  /-- A probe that fails because its time is over tells nothing else. -/
  told : ∀ {σ : Type} (commands : Commands σ) (argv : List String) (polls : Nat) (fired : Bool)
    (host : Host σ) (command text : String),
    (Probe.ofCommand commands argv d polls fired host).poll =
      .done (.error (.timeout command text)) → text = d.toText
  /-- A probe whose command runs on when its time is over fails so. -/
  overdue : ∀ {σ : Type} (commands : Commands σ) (argv : List String) (polls : Nat) (host : Host σ),
    argv ≠ [] → (commands.look host).1 = ⟨none, true⟩ →
    (Probe.ofCommand commands argv d (polls + 1) false host).poll =
      .done (.error (.timeout (Event.commandLine argv) d.toText))
  /-- What is told reads as the limit; no sum on the way is out of range. -/
  read : Duration.ofText d.toText = .ok d
  /-- A document with what is told as its limit is accepted if it is without, and has that limit. -/
  given : ∀ t, t.lookup "probe-timeout" = some (.text d.toText) →
    ofTable t = (ofTable (t.filter (·.1 != "probe-timeout"))).map fun config =>
      { config with probeTimeout := d }
  /-- A configuration file with the line that sets it is accepted, and has that limit. -/
  file : ∀ files path, Files.Tree.readText files path = .ok (limitLine d) →
    load files path = .ok { standard with probeTimeout := d }
  /-- No other limit is told the same. -/
  different : ∀ d' : Duration, d'.toText = d.toText → d' = d

theorem limit_shown (d : Duration) : LimitShown d where
  told _ _ _ _ _ _ _ hpoll := Probe.limit_of_ofCommand hpoll
  overdue _ _ _ _ hargv hlook := Probe.ofCommand_of_overdue hargv hlook
  read := d.ofText_toText
  given _ hlimit := ofTable_of_limit hlimit
  file files path htext := by
    rw [load_eq_ok_iff ⟨_, htext, read_limitLine d⟩, ofTable_of_limit rfl]
    rfl
  different _ htext := Duration.toText_injective htext

end Config

end DriverValidation
