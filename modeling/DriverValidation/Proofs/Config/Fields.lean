import DriverValidation.Proofs.Config.Commands
import DriverValidation.Proofs.Program.Start
import DriverValidation.Proofs.Toml.Line

/-!
The settings that a document gives, one by one. Each is given by one key, at the top of the document or
in its table of probe commands, and is the standard one where the key is absent. So a document is
accepted if each of these keys that it has stands before a value of the kind of its setting; other keys
make no difference, and neither does one setting to another.
-/

namespace DriverValidation.Config

/-! ## Settings and their kinds -/

/-- What kind of value a setting has. -/
inductive Kind where
  | text
  | span
  | command

/-- What is set. -/
abbrev Kind.Content : Kind → Type
  | text => String
  | span => Duration
  | command => List String

/-- A value of a document stands for what is set. -/
inductive Kind.Means : (kind : Kind) → Toml.Value → kind.Content → Prop
  | text (s : String) : Means text (.text s) s
  | span {s : String} {d : Duration} (hread : Duration.ofText s = .ok d) : Means span (.text s) d
  | command (argv : List String) : Means command (.array (argv.map .text)) argv

def Kind.read : (kind : Kind) → String → Toml.Value → Except Fault kind.Content
  | text => textOf
  | span => durationOf
  | command => commandOf

/-- The settings that a document can give. -/
inductive Setting where
  | statusFile
  | outputDir
  | probeTimeout
  | gdrcopy
  | nvidiaFs
  | nvidiaPeermem
  deriving DecidableEq

/-- The table with the probe commands; without one there are none. -/
def probesTable (t : Toml.Table) : Toml.Table :=
  match t.lookup "probes" with
  | some (.table p) => p
  | _ => []

namespace Setting

/-- The key behind which a setting is given. -/
def key : Setting → String
  | statusFile => "status-file"
  | outputDir => "output-dir"
  | probeTimeout => "probe-timeout"
  | gdrcopy => "gdrcopy"
  | nvidiaFs => "nvidia-fs"
  | nvidiaPeermem => "nvidia-peermem"

/-- A setting that is given in the table of probe commands. -/
def ofProbe : Setting → Bool
  | statusFile | outputDir | probeTimeout => false
  | gdrcopy | nvidiaFs | nvidiaPeermem => true

def kind : Setting → Kind
  | statusFile | outputDir => .text
  | probeTimeout => .span
  | gdrcopy | nvidiaFs | nvidiaPeermem => .command

def get (config : Config) : (s : Setting) → s.kind.Content
  | statusFile => config.statusFile
  | outputDir => config.outputDir
  | probeTimeout => config.probeTimeout
  | gdrcopy => config.probes.gdrcopy
  | nvidiaFs => config.probes.nvidiaFs
  | nvidiaPeermem => config.probes.nvidiaPeermem

def table (t : Toml.Table) (s : Setting) : Toml.Table := if s.ofProbe then probesTable t else t

/-- The value that a document has for a setting. -/
def value? (t : Toml.Table) (s : Setting) : Option Toml.Value := (s.table t).lookup s.key

/-- What a setting is by a document: what its value stands for, or what is standard. -/
inductive Gives (t : Toml.Table) (s : Setting) : s.kind.Content → Prop
  | present {v : Toml.Value} {a : s.kind.Content} (hvalue : s.value? t = some v)
      (hmeans : s.kind.Means v a) : Gives t s a
  | absent (hvalue : s.value? t = none) : Gives t s (s.get standard)

theorem Gives.of_value? {t t' : Toml.Table} {s : Setting} {a : s.kind.Content}
    (hgives : s.Gives t a) (hvalue : s.value? t' = s.value? t) : s.Gives t' a := by
  cases hgives with
  | present hvalue' hmeans => exact .present (hvalue.trans hvalue') hmeans
  | absent hvalue' => exact .absent (hvalue.trans hvalue')

/-- What a setting is where its own key is absent. -/
def default : (s : Setting) → s.kind.Content
  | statusFile => standardStatusFile
  | outputDir => standardOutputDir
  | probeTimeout => standardTimeout
  | gdrcopy => ProbeCommands.standardGdrcopy
  | nvidiaFs => ProbeCommands.standardNvidiaFs
  | nvidiaPeermem => ProbeCommands.standardNvidiaPeermem

/-- The settings without a configuration file are those of a file in which all keys are absent. -/
theorem get_standard (s : Setting) : s.get standard = s.default := by
  cases s <;> rfl

/-- How a setting is read from a document. -/
def read (t : Toml.Table) (s : Setting) : Except Fault s.kind.Content :=
  entry (s.table t) s.key s.default s.kind.read

end Setting

/-- Each setting can be anything of its kind, whatever the others are. -/
theorem exists_get (a : (s : Setting) → s.kind.Content) : ∃ config, ∀ s, s.get config = a s := by
  refine ⟨⟨a .statusFile, a .outputDir, a .probeTimeout, a .gdrcopy, a .nvidiaFs, a .nvidiaPeermem⟩,
    fun s => ?_⟩
  cases s <;> rfl

/-! ## Reading a setting -/

theorem textOf_eq_ok_iff {key : String} {v : Toml.Value} {s : String} :
    textOf key v = .ok s ↔ v = .text s := by
  constructor
  · intro hread
    cases v with
    | text s' => exact congrArg Toml.Value.text (Except.ok.inj hread)
    | _ => cases hread
  · rintro rfl
    rfl

theorem mapM_textOf_eq_ok_iff {key : String} {items : List Toml.Value} {argv : List String} :
    items.mapM (textOf key) = .ok argv ↔ items = argv.map .text := by
  induction items generalizing argv with
  | nil =>
      rw [List.mapM_nil, eq_comm (a := []), List.map_eq_nil_iff]
      exact ⟨fun hread => (Except.ok.inj hread).symm, fun hargv => congrArg Except.ok hargv.symm⟩
  | cons v items ih =>
      rw [List.mapM_cons]
      constructor
      · intro hread
        obtain ⟨s, hs, hread⟩ := bind_eq_ok hread
        obtain ⟨rest, hrest, hread⟩ := bind_eq_ok hread
        rw [← Except.ok.inj hread, List.map_cons, textOf_eq_ok_iff.mp hs, ih.mp hrest]
      · intro hitems
        cases argv with
        | nil => cases hitems
        | cons s rest =>
            obtain ⟨rfl, hrest⟩ := List.cons.inj hitems
            rw [ih.mpr hrest]
            rfl

/-- A value is read as what it stands for, if it is of the kind. -/
theorem Kind.read_eq_ok_iff {kind : Kind} {key : String} {v : Toml.Value} {a : kind.Content} :
    kind.read key v = .ok a ↔ kind.Means v a := by
  cases kind with
  | text =>
      refine textOf_eq_ok_iff.trans ⟨?_, ?_⟩
      · rintro rfl
        exact .text a
      · rintro ⟨⟩
        rfl
  | span =>
      constructor
      · intro hread
        cases v with
        | text s =>
            refine .span ?_
            rw [read, durationOf] at hread
            cases hspan : Duration.ofText s with
            | error fault =>
                rw [hspan] at hread
                cases hread
            | ok d =>
                rw [hspan] at hread
                exact congrArg Except.ok (Except.ok.inj hread)
        | _ => cases hread
      · intro hmeans
        cases hmeans with
        | span hread => exact congrArg (Except.mapError Fault.badTimeout) hread
  | command =>
      constructor
      · intro hread
        cases v with
        | array items =>
            rw [mapM_textOf_eq_ok_iff.mp hread]
            exact .command a
        | _ => cases hread
      · rintro ⟨⟩
        exact mapM_textOf_eq_ok_iff.mpr rfl

theorem Setting.read_eq_ok_iff {t : Toml.Table} {s : Setting} {a : s.kind.Content} :
    s.read t = .ok a ↔ s.Gives t a := by
  rw [read, entry]
  constructor
  · intro hread
    cases hvalue : (s.table t).lookup s.key with
    | none =>
        rw [hvalue] at hread
        rw [← Except.ok.inj hread, ← s.get_standard]
        exact .absent hvalue
    | some v =>
        rw [hvalue] at hread
        exact .present hvalue (Kind.read_eq_ok_iff.mp hread)
  · rintro (⟨hvalue, hmeans⟩ | hvalue)
    · rw [value?] at hvalue
      rw [hvalue]
      exact Kind.read_eq_ok_iff.mpr hmeans
    · rw [value?] at hvalue
      rw [hvalue, s.get_standard]

/-- A setting can be read if its value, where it has one, is of its kind. -/
theorem Setting.exists_read_iff {t : Toml.Table} {s : Setting} :
    (∃ a, s.read t = .ok a) ↔ ∀ v, s.value? t = some v → ∃ a, s.kind.Means v a := by
  constructor
  · rintro ⟨a, hread⟩ v hvalue
    cases Setting.read_eq_ok_iff.mp hread with
    | present hvalue' hmeans =>
        rw [hvalue] at hvalue'
        rw [Option.some.inj hvalue']
        exact ⟨a, hmeans⟩
    | absent hvalue' =>
        rw [hvalue] at hvalue'
        cases hvalue'
  · intro hkind
    cases hvalue : s.value? t with
    | none => exact ⟨_, Setting.read_eq_ok_iff.mpr (.absent hvalue)⟩
    | some v =>
        obtain ⟨a, hmeans⟩ := hkind v hvalue
        exact ⟨a, Setting.read_eq_ok_iff.mpr (.present hvalue hmeans)⟩

/-! ## Reading all settings -/

/-- The probe commands, if a document has any, are given by a table. -/
def TabularProbes (t : Toml.Table) : Prop :=
  ∀ v, t.lookup "probes" = some v → ∃ p, v = .table p

section Table

variable {t t' : Toml.Table} {config : Config}

theorem probesOf_nil (key : String) : probesOf key (.table []) = .ok .standard := rfl

theorem ofTable_nil : ofTable [] = .ok standard := rfl

/-- A document without probe commands is read as one with an empty table of them. -/
theorem probes_eq (hprobes : TabularProbes t) :
    entry t "probes" ProbeCommands.standard probesOf = probesOf "probes" (.table (probesTable t)) := by
  rw [entry, probesTable]
  cases hvalue : t.lookup "probes" with
  | none => exact (probesOf_nil "probes").symm
  | some v =>
      obtain ⟨p, rfl⟩ := hprobes v hvalue
      rfl

theorem ofTable_eq_ok_iff (hprobes : TabularProbes t) :
    ofTable t = .ok config ↔ ∀ s : Setting, s.read t = .ok (s.get config) := by
  rw [ofTable, probes_eq hprobes, probesOf]
  constructor
  · intro htable
    obtain ⟨statusFile, hstatusFile, htable⟩ := bind_eq_ok htable
    obtain ⟨outputDir, houtputDir, htable⟩ := bind_eq_ok htable
    obtain ⟨probeTimeout, hprobeTimeout, htable⟩ := bind_eq_ok htable
    obtain ⟨probes, hcommands, htable⟩ := bind_eq_ok htable
    obtain ⟨gdrcopy, hgdrcopy, hcommands⟩ := bind_eq_ok hcommands
    obtain ⟨nvidiaFs, hnvidiaFs, hcommands⟩ := bind_eq_ok hcommands
    obtain ⟨nvidiaPeermem, hnvidiaPeermem, hcommands⟩ := bind_eq_ok hcommands
    obtain rfl := Except.ok.inj htable
    obtain rfl := Except.ok.inj hcommands
    intro s
    cases s with
    | statusFile => exact hstatusFile
    | outputDir => exact houtputDir
    | probeTimeout => exact hprobeTimeout
    | gdrcopy => exact hgdrcopy
    | nvidiaFs => exact hnvidiaFs
    | nvidiaPeermem => exact hnvidiaPeermem
  · intro hread
    have hstatusFile : entry t "status-file" standardStatusFile textOf = .ok config.statusFile :=
      hread .statusFile
    have houtputDir : entry t "output-dir" standardOutputDir textOf = .ok config.outputDir :=
      hread .outputDir
    have hprobeTimeout : entry t "probe-timeout" standardTimeout durationOf =
      .ok config.probeTimeout := hread .probeTimeout
    have hgdrcopy : entry (probesTable t) "gdrcopy" ProbeCommands.standardGdrcopy commandOf =
      .ok config.probes.gdrcopy := hread .gdrcopy
    have hnvidiaFs : entry (probesTable t) "nvidia-fs" ProbeCommands.standardNvidiaFs commandOf =
      .ok config.probes.nvidiaFs := hread .nvidiaFs
    have hnvidiaPeermem : entry (probesTable t) "nvidia-peermem"
      ProbeCommands.standardNvidiaPeermem commandOf = .ok config.probes.nvidiaPeermem :=
      hread .nvidiaPeermem
    rw [hstatusFile, houtputDir, hprobeTimeout, hgdrcopy, hnvidiaFs, hnvidiaPeermem]
    rfl

theorem ofTable_eq_ok_iff_gives (hprobes : TabularProbes t) :
    ofTable t = .ok config ↔ ∀ s : Setting, s.Gives t (s.get config) :=
  (ofTable_eq_ok_iff hprobes).trans (forall_congr' fun _ => Setting.read_eq_ok_iff)

/-- A document gives settings if each value that it has for one is of the kind of the setting. -/
theorem exists_ofTable_iff (hprobes : TabularProbes t) : (∃ config, ofTable t = .ok config) ↔
    ∀ (s : Setting) (v : Toml.Value), s.value? t = some v → ∃ a, s.kind.Means v a := by
  constructor
  · rintro ⟨config, htable⟩ s
    exact Setting.exists_read_iff.mp ⟨_, (ofTable_eq_ok_iff hprobes).mp htable s⟩
  · intro hkinds
    obtain ⟨a, hread⟩ := Classical.axiomOfChoice fun s : Setting =>
      Setting.exists_read_iff.mpr (hkinds s)
    obtain ⟨config, hget⟩ := exists_get a
    refine ⟨config, (ofTable_eq_ok_iff hprobes).mpr fun s => ?_⟩
    rw [hget, hread]

theorem entry_congr {α : Type} {key : String} {standard : α}
    {read : String → Toml.Value → Except Fault α} (hvalue : t.lookup key = t'.lookup key) :
    entry t key standard read = entry t' key standard read := by
  rw [entry, entry, hvalue]

/-- Documents with the same values for all settings are read the same, or fail the same. -/
theorem ofTable_congr (hprobes : TabularProbes t) (hprobes' : TabularProbes t')
    (hsame : ∀ s : Setting, s.value? t = s.value? t') : ofTable t = ofTable t' := by
  have hstatusFile : t.lookup "status-file" = t'.lookup "status-file" := hsame .statusFile
  have houtputDir : t.lookup "output-dir" = t'.lookup "output-dir" := hsame .outputDir
  have hprobeTimeout : t.lookup "probe-timeout" = t'.lookup "probe-timeout" := hsame .probeTimeout
  have hgdrcopy : (probesTable t).lookup "gdrcopy" = (probesTable t').lookup "gdrcopy" :=
    hsame .gdrcopy
  have hnvidiaFs : (probesTable t).lookup "nvidia-fs" = (probesTable t').lookup "nvidia-fs" :=
    hsame .nvidiaFs
  have hnvidiaPeermem :
    (probesTable t).lookup "nvidia-peermem" = (probesTable t').lookup "nvidia-peermem" :=
    hsame .nvidiaPeermem
  rw [ofTable, ofTable, probes_eq hprobes, probes_eq hprobes', probesOf, probesOf,
    entry_congr hstatusFile, entry_congr houtputDir, entry_congr hprobeTimeout,
    entry_congr hgdrcopy, entry_congr hnvidiaFs, entry_congr hnvidiaPeermem]

/-- An empty table of probe commands has no value for a setting, and neither has a missing one. -/
theorem ofTable_of_empty_probes (hprobes : TabularProbes t) (hnone : t.lookup "probes" = none)
    (hempty : t'.lookup "probes" = some (.table []))
    (hsame : ∀ key, key ≠ "probes" → t'.lookup key = t.lookup key) : ofTable t' = ofTable t := by
  have hprobes' : TabularProbes t' := by
    intro v hvalue
    rw [hempty] at hvalue
    exact ⟨[], (Option.some.inj hvalue).symm⟩
  have htables : probesTable t' = probesTable t := by
    rw [probesTable, probesTable, hnone, hempty]
  refine ofTable_congr hprobes' hprobes fun s => ?_
  rw [Setting.value?, Setting.value?, Setting.table, Setting.table, htables]
  by_cases hplace : s.ofProbe = true
  · rw [if_pos hplace, if_pos hplace]
  · rw [if_neg hplace, if_neg hplace]
    exact hsame s.key (by cases s <;> decide)

/-! ## Taking settings out of a document -/

/-- A document has the values of another one but for the settings that are gone. -/
def Removed (gone : List Setting) (t t' : Toml.Table) : Prop :=
  ∀ s : Setting, s.value? t' = if s ∈ gone then none else s.value? t

/-- A document that lacks some of the values of another one gives the standard settings instead. -/
theorem ofTable_of_removed {gone : List Setting} (hprobes : TabularProbes t)
    (hprobes' : TabularProbes t') (hremoved : Removed gone t t') (htable : ofTable t = .ok config) :
    ∃ config', ofTable t' = .ok config' ∧
      ∀ s : Setting, s.get config' = if s ∈ gone then s.get standard else s.get config := by
  obtain ⟨config', hget⟩ :=
    exists_get fun s => if s ∈ gone then s.get standard else s.get config
  refine ⟨config', (ofTable_eq_ok_iff_gives hprobes').mpr fun s => ?_, hget⟩
  have hvalue := hremoved s
  rw [hget]
  by_cases hgone : s ∈ gone
  · rw [if_pos hgone] at hvalue ⊢
    exact .absent hvalue
  · rw [if_neg hgone] at hvalue ⊢
    exact ((ofTable_eq_ok_iff_gives hprobes).mp htable s).of_value? hvalue

def dropKeys (gone : List Setting) (t : Toml.Table) : Toml.Table :=
  t.filter fun e => !gone.any fun s => s.key == e.1

/-- A value that is changed if it is a table. -/
def onTable (f : Toml.Table → Toml.Table) : Toml.Value → Toml.Value
  | .table p => .table (f p)
  | v => v

/-- A document without the keys of some settings. -/
def without (gone : List Setting) (t : Toml.Table) : Toml.Table :=
  (dropKeys (gone.filter (!·.ofProbe)) t).map fun e =>
    (e.1, if e.1 == "probes" then onTable (dropKeys (gone.filter (·.ofProbe))) e.2 else e.2)

theorem lookup_filter_key (keep : String → Bool) (key : String) (t : Toml.Table) :
    (t.filter fun e => keep e.1).lookup key = if keep key then t.lookup key else none := by
  induction t with
  | nil => rw [List.filter_nil, List.lookup_nil, ite_self]
  | cons e t ih =>
      obtain ⟨k, v⟩ := e
      rw [List.filter_cons, List.lookup_cons]
      by_cases hk : key = k
      · subst hk
        by_cases hkeep : keep key = true
        · rw [if_pos hkeep, if_pos hkeep, List.lookup_cons_self, beq_self_eq_true]
        · rw [if_neg hkeep, ih, if_neg hkeep, if_neg hkeep]
      · rw [beq_eq_false_iff_ne.mpr hk, ← ih]
        by_cases hkeep : keep k = true
        · rw [if_pos hkeep, List.lookup_cons, beq_eq_false_iff_ne.mpr hk]
        · rw [if_neg hkeep]

theorem lookup_map_value (f : String → Toml.Value → Toml.Value) (key : String) (t : Toml.Table) :
    (t.map fun e => (e.1, f e.1 e.2)).lookup key = (t.lookup key).map (f key) := by
  induction t with
  | nil => rfl
  | cons e t ih =>
      obtain ⟨k, v⟩ := e
      rw [List.map_cons, List.lookup_cons, List.lookup_cons, ih]
      by_cases hk : key = k
      · subst hk
        rw [beq_self_eq_true]
        rfl
      · rw [beq_eq_false_iff_ne.mpr hk]

theorem Setting.key_inj {s s' : Setting} (hkey : s.key = s'.key) : s = s' := by
  cases s <;> cases s' <;> first | rfl | (simp [key] at hkey)

theorem lookup_dropKeys (gone : List Setting) (t : Toml.Table) (s : Setting) :
    (dropKeys gone t).lookup s.key = if s ∈ gone then none else t.lookup s.key := by
  have hany : (gone.any fun s' => s'.key == s.key) = decide (s ∈ gone) := by
    rw [Bool.eq_iff_iff, List.any_eq_true, decide_eq_true_iff]
    constructor
    · rintro ⟨s', hmem, hkey⟩
      exact Setting.key_inj (beq_iff_eq.mp hkey) ▸ hmem
    · exact fun hmem => ⟨s, hmem, beq_self_eq_true _⟩
  rw [dropKeys, lookup_filter_key (fun key => !gone.any fun s => s.key == key), hany]
  by_cases hgone : s ∈ gone
  · rw [if_pos hgone, decide_eq_true hgone]
    rfl
  · rw [if_neg hgone, decide_eq_false hgone]
    rfl

theorem lookup_without {gone : List Setting} {key : String} (t : Toml.Table) :
    (without gone t).lookup key =
      ((dropKeys (gone.filter (!·.ofProbe)) t).lookup key).map fun v =>
        if key == "probes" then onTable (dropKeys (gone.filter (·.ofProbe))) v else v :=
  lookup_map_value
    (fun key v => if key == "probes" then onTable (dropKeys (gone.filter (·.ofProbe))) v else v) key _

theorem lookup_probes_without (gone : List Setting) (t : Toml.Table) :
    (without gone t).lookup "probes" =
      (t.lookup "probes").map (onTable (dropKeys (gone.filter (·.ofProbe)))) := by
  have hkept : (dropKeys (gone.filter (!·.ofProbe)) t).lookup "probes" = t.lookup "probes" := by
    rw [dropKeys, lookup_filter_key fun key =>
      !(gone.filter (!·.ofProbe)).any fun s => s.key == key]
    have hnone : ((gone.filter (!·.ofProbe)).any fun s => s.key == "probes") = false := by
      rw [List.any_eq_false]
      intro s _
      cases s <;> decide
    rw [hnone]
    rfl
  rw [lookup_without, hkept]
  rfl

theorem probesTable_without (gone : List Setting) (t : Toml.Table) :
    probesTable (without gone t) = dropKeys (gone.filter (·.ofProbe)) (probesTable t) := by
  rw [probesTable, probesTable, lookup_probes_without]
  rcases t.lookup "probes" with _ | v
  · rfl
  · cases v <;> rfl

theorem tabularProbes_without (gone : List Setting) (hprobes : TabularProbes t) :
    TabularProbes (without gone t) := by
  intro v hvalue
  rw [lookup_probes_without] at hvalue
  obtain ⟨v', hvalue', rfl⟩ := Option.map_eq_some_iff.mp hvalue
  obtain ⟨p, rfl⟩ := hprobes v' hvalue'
  exact ⟨_, rfl⟩

/-- Any settings can be taken out of a document, and the values of the others stay. -/
theorem removed_without (gone : List Setting) (t : Toml.Table) : Removed gone t (without gone t) := by
  intro s
  rw [Setting.value?, Setting.table, Setting.value?, Setting.table]
  by_cases hplace : s.ofProbe = true
  · have hmem : s ∈ gone.filter (·.ofProbe) ↔ s ∈ gone := by
      rw [List.mem_filter, hplace, and_iff_left rfl]
    rw [if_pos hplace, if_pos hplace, probesTable_without, lookup_dropKeys]
    simp only [hmem]
  · have hmem : s ∈ gone.filter (!·.ofProbe) ↔ s ∈ gone := by
      rw [List.mem_filter, Bool.eq_false_iff.mpr hplace, Bool.not_false, and_iff_left rfl]
    have hkey : (s.key == "probes") = false := by
      cases s <;> decide
    rw [if_neg hplace, if_neg hplace, lookup_without, hkey, lookup_dropKeys]
    simp only [hmem, Bool.false_eq_true, if_false, Option.map_id_fun', id_eq]

end Table

/-! ## The settings of a file -/

/-- A file holds a document. -/
def Holds (files : Files.Tree) (path : String) (t : Toml.Table) : Prop :=
  ∃ s, files.readText path = .ok s ∧ Toml.Document.read s = .ok t

section File

variable {files files' : Files.Tree} {path path' : String} {t t' : Toml.Table} {config : Config}

theorem load_of_holds (hfile : Holds files path t) :
    load files path = (ofTable t).mapError fun fault => .configRead path (.settings fault) := by
  obtain ⟨s, htext, hdocument⟩ := hfile
  rw [load, htext]
  dsimp only
  rw [ofText, hdocument]

theorem load_eq_ok_iff (hfile : Holds files path t) :
    load files path = .ok config ↔ ofTable t = .ok config := by
  rw [load_of_holds hfile]
  cases ofTable t with
  | error fault => exact ⟨nofun, nofun⟩
  | ok config' => exact ⟨fun hload => congrArg Except.ok (Except.ok.inj hload), fun htable =>
      congrArg Except.ok (Except.ok.inj htable)⟩

theorem read_empty : Toml.Document.read "" = .ok [] := rfl

theorem read_empty_probes : Toml.Document.read "[probes]\n" = .ok [("probes", .table [])] := by
  have hline : "[probes]\n" = Toml.Document.headerLine "probes" := by decide
  rw [hline]
  exact Toml.Document.read_headerLine (by decide) (by decide)

/-- The settings of a configuration file that holds a document, one by one. -/
structure Fieldwise (files : Files.Tree) (path : String) (t : Toml.Table) : Prop where
  /-- The file is accepted if each value that it has for a setting is of the kind of the setting. -/
  accepted : (∃ config, load files path = .ok config) ↔
    ∀ (s : Setting) (v : Toml.Value), s.value? t = some v → ∃ a, s.kind.Means v a
  /-- The settings of an accepted file are what its values stand for, and the standard ones elsewhere. -/
  loaded : ∀ config, load files path = .ok config ↔ ∀ s : Setting, s.Gives t (s.get config)
  /-- A file that differs in other keys only has the same settings, or fails the same. -/
  unknown : ∀ files' t', Holds files' path t' → TabularProbes t' →
    (∀ s : Setting, s.value? t' = s.value? t) → load files' path = load files path
  /-- A file that lacks some of the values is accepted as well, with the standard settings instead. -/
  removed : ∀ gone files' path' t', Holds files' path' t' → TabularProbes t' → Removed gone t t' →
    ∀ config, load files path = .ok config → ∃ config', load files' path' = .ok config' ∧
      ∀ s : Setting, s.get config' = if s ∈ gone then s.get standard else s.get config
  /-- Any of the values can be taken out. -/
  removable : ∀ gone, Removed gone t (without gone t) ∧ TabularProbes (without gone t)
  /-- An empty table of probe commands is as good as none. -/
  empty_probes : ∀ files' t', Holds files' path t' → t.lookup "probes" = none →
    t'.lookup "probes" = some (.table []) →
    (∀ key, key ≠ "probes" → t'.lookup key = t.lookup key) → load files' path = load files path

/-- The standard settings are those of an empty file, of one with an empty table of probe commands, and of
none. -/
structure Defaults : Prop where
  empty : ∀ files path, Files.Tree.readText files path = .ok "" → load files path = .ok standard
  empty_probes : ∀ files path, Files.Tree.readText files path = .ok "[probes]\n" →
    load files path = .ok standard
  none : ∀ (options : Options) files, options.configPath = none →
    Program.settings options files = .ok standard

/-- A setting is read from its own key only, and is the standard one without. A file is refused, for
whatever reason, with its path. -/
theorem load_fieldwise (hfile : Holds files path t) (hprobes : TabularProbes t) :
    Fieldwise files path t ∧ Defaults ∧
      ∀ files path e, load files path = .error e → ∃ reason, e = .configRead path reason := by
  refine ⟨?_, ?_, fun _ _ _ => Program.error_of_load⟩
  · exact {
      accepted := by
        simp only [load_eq_ok_iff hfile]
        exact exists_ofTable_iff hprobes
      loaded := fun config => (load_eq_ok_iff hfile).trans (ofTable_eq_ok_iff_gives hprobes)
      unknown := by
        intro files' t' hfile' hprobes' hsame
        rw [load_of_holds hfile, load_of_holds hfile', ofTable_congr hprobes' hprobes hsame]
      removed := by
        intro gone files' path' t' hfile' hprobes' hremoved config hload
        obtain ⟨config', htable, hget⟩ :=
          ofTable_of_removed hprobes hprobes' hremoved ((load_eq_ok_iff hfile).mp hload)
        exact ⟨config', (load_eq_ok_iff hfile').mpr htable, hget⟩
      removable := fun gone => ⟨removed_without gone t, tabularProbes_without gone hprobes⟩
      empty_probes := by
        intro files' t' hfile' hnone hempty hsame
        rw [load_of_holds hfile, load_of_holds hfile', ofTable_of_empty_probes hprobes hnone hempty hsame]
    }
  · exact {
      empty := fun files path htext => (load_eq_ok_iff ⟨_, htext, read_empty⟩).mpr ofTable_nil
      empty_probes := fun files path htext => (load_eq_ok_iff ⟨_, htext, read_empty_probes⟩).mpr rfl
      none := by
        intro options files hpath
        rw [Program.settings, hpath]
    }

end File

/-- The text of a configuration file that sets the path of the status file. -/
def sampleText : String := Toml.Document.entryLine "status-file" "/tmp/status"

def sampleFiles : Files.Tree :=
  Files.Tree.empty.put ["config.toml"] (.file (Text.Utf8.encode sampleText))

def sampleTable : Toml.Table := [("status-file", .text "/tmp/status")]

theorem sampleFiles_holds : Holds sampleFiles "config.toml" sampleTable := by
  have htext : (sampleFiles.readText "config.toml").toOption = some sampleText := by
    decide +kernel
  refine ⟨sampleText, ?_, ?_⟩
  · cases hread : sampleFiles.readText "config.toml" with
    | error e =>
        rw [hread] at htext
        cases htext
    | ok s =>
        rw [hread] at htext
        exact congrArg Except.ok (Option.some.inj htext)
  · exact Toml.Document.read_entryLine (by decide) (by decide) (by decide)

theorem load_fieldwise_sampleFiles : Holds sampleFiles "config.toml" sampleTable ∧
    TabularProbes sampleTable ∧ Fieldwise sampleFiles "config.toml" sampleTable := by
  have hprobes : TabularProbes sampleTable := nofun
  exact ⟨sampleFiles_holds, hprobes, (load_fieldwise sampleFiles_holds hprobes).1⟩

end DriverValidation.Config
