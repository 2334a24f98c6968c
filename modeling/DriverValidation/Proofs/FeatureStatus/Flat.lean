import DriverValidation.Proofs.FeatureStatus.Judgement
import DriverValidation.Proofs.Yaml.Flat.Value

/-!
Flat status files, the form in which the driver container writes them. Such a file is a status exactly if
all of its words can be read and those of the flags are truth values; the status then has the values of
its entries, line by line. A file whose words are all truth values always is one. Further entries that are
no flags change nothing, unless one of them is a whole number that no value holds.
-/

namespace DriverValidation.FeatureStatus

open Yaml

/-- A flat document whose keys can be those of a status file, no two of them the same. -/
structure IsFlat (lines : List Flat.Line) (last : Flat.Line) : Prop where
  proper : ∀ line ∈ lines, line.Proper
  proper_last : last.Proper
  keys : ∀ e ∈ Flat.entries lines last, Flat.IsKey e.1
  distinct : ((Flat.entries lines last).map (·.1)).Nodup

namespace IsFlat

variable {lines : List Flat.Line} {last : Flat.Line} {path : String} {status : FeatureStatus}

theorem not_blank (hflat : IsFlat lines last) (hentries : Flat.entries lines last ≠ []) :
    ¬Blank (String.ofList (Flat.text lines last)) := by
  obtain ⟨entry, entries, hcons⟩ := List.exists_cons_of_ne_nil hentries
  have hentry : entry ∈ Flat.entries lines last := hcons ▸ List.mem_cons_self
  obtain ⟨first, rest, hkey, hfirst, -⟩ := hflat.keys entry hentry
  obtain ⟨line, hline, hsome⟩ := List.mem_filterMap.mp hentry
  have hmem : first ∈ line.chars := by
    cases line with
    | blank => cases hsome
    | comment => cases hsome
    | entry key word =>
        obtain rfl : (key, word) = entry := Option.some.inj hsome
        dsimp only at hkey
        rw [Flat.Line.chars, hkey]
        exact List.mem_cons_self
  intro hblank
  rw [Blank, String.toList_ofList] at hblank
  have hfirst := Text.toNat_of_isUpper hfirst
  have hblank := hblank first (Flat.mem_text hline hmem)
  simp [Text.isBlank] at hblank
  omega

/-- What a flat document is as a status: the values of its entries, if they can be read. -/
theorem ofText_eq (hflat : IsFlat lines last) :
    ofText (String.ofList (Flat.text lines last)) =
      match (Flat.entries lines last).mapM Flat.entryValue with
      | .error e => .error (.yaml e)
      | .ok values => ofValue (.mapping values) := by
  rw [ofText, Flat.ofText_text hflat.proper hflat.proper_last hflat.keys hflat.distinct]
  by_cases hentries : Flat.entries lines last = []
  · rw [hentries, List.mapM_nil]
    by_cases hblank : Blank (String.ofList (Flat.text lines last))
    · rw [ofReading_of_blank hblank]
      rfl
    · rw [List.isEmpty_nil, if_pos rfl, ofReading_ok hblank]
      rfl
  · have hempty : (Flat.entries lines last).isEmpty = false := by
      rwa [← Bool.not_eq_true, List.isEmpty_iff]
    rw [hempty, if_neg Bool.false_ne_true]
    cases (Flat.entries lines last).mapM Flat.entryValue with
    | error e => exact ofReading_error (hflat.not_blank hentries) e
    | ok values => exact ofReading_ok (hflat.not_blank hentries) _

theorem distinct_values (hflat : IsFlat lines last) {values : List (Value × Value)}
    (hvalues : (Flat.entries lines last).mapM Flat.entryValue = .ok values) : Value.Distinct values := by
  have hread := Flat.ofText_text hflat.proper hflat.proper_last hflat.keys hflat.distinct
  by_cases hentries : (Flat.entries lines last).isEmpty = true
  · rw [List.isEmpty_iff.mp hentries, List.mapM_nil] at hvalues
    rw [← Except.ok.inj hvalues]
    exact .nil
  · rw [if_neg hentries, hvalues] at hread
    exact Value.distinct_of_ofText hread

/-- A flat document is a status exactly if its words can be read and the flags among them are truth
values; it then has the values of its entries. -/
theorem parse_eq_ok_iff (hflat : IsFlat lines last) :
    parse path (String.ofList (Flat.text lines last)) = .ok status ↔
      (Flat.entries lines last).mapM Flat.entryValue = .ok status.entries ∧
        ∀ f, Proper status.entries f := by
  rw [parse, mapError_eq_ok_iff, hflat.ofText_eq]
  cases hvalues : (Flat.entries lines last).mapM Flat.entryValue with
  | error e => simp
  | ok values =>
      have hdistinct : ∀ entries, Value.mapping values = .mapping entries → Value.Distinct entries :=
        fun entries hentries => Value.mapping.inj hentries ▸ hflat.distinct_values hvalues
      dsimp only
      rw [ofValue_eq_ok_iff hdistinct]
      simp

theorem parse_of_error (hflat : IsFlat lines last) {e : Yaml.Error}
    (hvalues : (Flat.entries lines last).mapM Flat.entryValue = .error e) :
    parse path (String.ofList (Flat.text lines last)) = .error (.statusInvalid path (.yaml e)) := by
  rw [parse, hflat.ofText_eq, hvalues]
  rfl

end IsFlat

/-! ## Flags as they are written -/

def spellings : Bool → List (List Char)
  | true => ["true".toList, "True".toList, "TRUE".toList]
  | false => ["false".toList, "False".toList, "FALSE".toList]

/-- A line of a file of flags: empty, a comment, or a key with a truth value. -/
inductive IsFlagLine : Flat.Line → Prop
  | blank : IsFlagLine .blank
  | comment {text : List Char} (htext : ∀ c ∈ text, Flat.isPrintable c = true) :
      IsFlagLine (.comment text)
  | flag {key word : List Char} (b : Bool) (hkey : Flat.IsKey key) (hlength : key.length ≤ 1000)
      (hword : word ∈ spellings b) : IsFlagLine (.entry key word)

section Flags

variable {word : List Char} {b : Bool} {lines : List Flat.Line} {last : Flat.Line}

theorem isPlain_of_mem_spellings (hword : word ∈ spellings b) :
    word ≠ [] ∧ ∀ c ∈ word, Flat.isPlain c = true := by
  have hall : ∀ b, ∀ word ∈ spellings b, word ≠ [] ∧ word.all Flat.isPlain = true := by decide
  exact ⟨(hall b word hword).1, List.all_eq_true.mp (hall b word hword).2⟩

theorem ofPlain_of_mem_spellings (hword : word ∈ spellings b) :
    Value.ofPlain word = .ok (.boolean (decide (word ∈ spellings true))) := by
  have hboolean : ∀ b, ∀ word ∈ spellings b,
      Meaning.boolean? word = some (decide (word ∈ spellings true)) := by decide
  exact Flat.ofPlain_of_boolean? (hboolean b word hword)

theorem IsFlagLine.proper {line : Flat.Line} (hline : IsFlagLine line) : line.Proper := by
  cases hline with
  | blank => exact .blank
  | comment htext => exact .comment htext
  | flag b hkey hlength hword =>
      obtain ⟨hne, hplain⟩ := hkey.isPlain
      obtain ⟨hne', hplain'⟩ := isPlain_of_mem_spellings hword
      exact .entry hne hplain (Nat.le_trans hlength (by decide)) hne' hplain'

/-- The entry that a line of a file of flags stands for. -/
def flagValue (entry : List Char × List Char) : Value × Value :=
  (Flat.keyValue entry.1, .boolean (decide (entry.2 ∈ spellings true)))

theorem mapM_flags {entries : List (List Char × List Char)}
    (hwords : ∀ e ∈ entries, ∃ b, e.2 ∈ spellings b) :
    entries.mapM Flat.entryValue = .ok (entries.map flagValue) := by
  induction entries with
  | nil => rfl
  | cons entry entries ih =>
      obtain ⟨⟨b, hword⟩, hwords⟩ := List.forall_mem_cons.mp hwords
      rw [List.mapM_cons, Flat.entryValue, ofPlain_of_mem_spellings hword, ih hwords]
      rfl

theorem proper_flags (entries : List (List Char × List Char)) (f : Feature) :
    Proper (entries.map flagValue) f := by
  intro v hv
  obtain ⟨entry, -, hvalue⟩ := List.mem_map.mp hv
  rw [← (Prod.mk.inj hvalue).2]
  rfl

theorem keyValue_statusKey (f : Feature) :
    Flat.keyValue f.statusKey.toList = .text f.statusKey := by
  cases f <;> rfl

/-- A flag is set in such a file if a line has its key with a spelling of true. -/
theorem holds_true_iff {entries : List (List Char × List Char)} (f : Feature) :
    Holds (entries.map flagValue) f (.boolean true) ↔
      ∃ word ∈ spellings true, (f.statusKey.toList, word) ∈ entries := by
  rw [Holds, List.mem_map]
  constructor
  · rintro ⟨⟨key, word⟩, he, hvalue⟩
    obtain ⟨hkey, hword⟩ := Prod.mk.inj hvalue
    obtain rfl := Flat.eq_of_keyValue hkey
    exact ⟨word, of_decide_eq_true (Value.boolean.inj hword), he⟩
  · rintro ⟨word, hword, he⟩
    refine ⟨_, he, ?_⟩
    rw [flagValue, keyValue_statusKey, decide_eq_true hword]

theorem isFlat_of_flags (hlines : ∀ line ∈ lines ++ [last], IsFlagLine line)
    (hdistinct : ((Flat.entries lines last).map (·.1)).Nodup) :
    IsFlat lines last ∧ ∀ e ∈ Flat.entries lines last, ∃ b, e.2 ∈ spellings b := by
  have hflags : ∀ e ∈ Flat.entries lines last, Flat.IsKey e.1 ∧ ∃ b, e.2 ∈ spellings b := by
    intro e he
    obtain ⟨line, hline, hentry⟩ := List.mem_filterMap.mp he
    cases hlines line hline with
    | blank | comment => cases hentry
    | flag b hkey hlength hword =>
        cases hentry
        exact ⟨hkey, b, hword⟩
  refine ⟨⟨fun line hline => ?_, ?_, fun e he => (hflags e he).1, hdistinct⟩,
    fun e he => (hflags e he).2⟩
  · exact (hlines line (List.mem_append_left _ hline)).proper
  · exact (hlines last (List.mem_append_right _ (List.mem_singleton_self _))).proper

/-- A file of flags, of which there is one at least, reads as the mapping of them. -/
theorem ofText_flags (hlines : ∀ line ∈ lines ++ [last], IsFlagLine line)
    (hdistinct : ((Flat.entries lines last).map (·.1)).Nodup)
    (hentries : Flat.entries lines last ≠ []) : Value.ofText (String.ofList (Flat.text lines last)) =
      .ok (.mapping ((Flat.entries lines last).map flagValue)) := by
  obtain ⟨hflat, hwords⟩ := isFlat_of_flags hlines hdistinct
  rw [Flat.ofText_text hflat.proper hflat.proper_last hflat.keys hflat.distinct,
    if_neg (not_congr List.isEmpty_iff |>.mpr hentries), mapM_flags hwords]
  rfl

/-- A file of flags is read as it is written: it is accepted with as many entries as there are lines that
are one, a feature is enabled exactly if a line has its key with a spelling of true, and the enabled
features are told in their order, not in that of the lines. -/
theorem parse_flags (path : String) (hlines : ∀ line ∈ lines ++ [last], IsFlagLine line)
    (hdistinct : ((Flat.entries lines last).map (·.1)).Nodup) :
    ∃ status, parse path (String.ofList (Flat.text lines last)) = .ok status ∧
      status.entries.length = (Flat.entries lines last).length ∧
      (∀ f, status.isEnabled f = true ↔ ∃ word ∈ spellings true,
        Flat.Line.entry f.statusKey.toList word ∈ lines ++ [last]) ∧
      status.enabled.Sublist [.gdrcopy, .gds, .gpuDirectRdma] ∧
      ∀ f, f ∈ status.enabled ↔ status.isEnabled f = true := by
  obtain ⟨hflat, hwords⟩ := isFlat_of_flags hlines hdistinct
  have hvalues := mapM_flags hwords
  let status : FeatureStatus := ⟨(Flat.entries lines last).map flagValue⟩
  refine ⟨status, hflat.parse_eq_ok_iff.mpr ⟨hvalues, proper_flags _⟩, List.length_map _, fun f => ?_,
    status.enabled_sublist, fun f => by rw [mem_enabled_iff, isEnabled_iff]⟩
  rw [isEnabled_iff, get?_eq_some_iff (hflat.distinct_values hvalues), holds_true_iff]
  simp only [Flat.mem_entries_iff]

/-- A file of flags with a comment, an empty line, and a key that is no text. -/
def mixedLines : List Flat.Line :=
  [.comment " flags".toList, .entry "GDS_ENABLED".toList "True".toList, .blank,
    .entry "NULL".toList "false".toList, .entry "GDRCOPY_ENABLED".toList "TRUE".toList]

theorem parse_flags_mixedLines :
    (∀ line ∈ mixedLines ++ [.blank], IsFlagLine line) ∧
      ((Flat.entries mixedLines .blank).map (·.1)).Nodup ∧
      ∃ status, parse "status"
          "# flags\nGDS_ENABLED: True\n\nNULL: false\nGDRCOPY_ENABLED: TRUE\n" = .ok status ∧
        status.entries.length = 3 ∧ status.enabled = [.gdrcopy, .gds] := by
  have hlines : ∀ line ∈ mixedLines ++ [.blank], IsFlagLine line := by
    simp only [mixedLines, List.cons_append, List.nil_append, List.forall_mem_cons]
    refine ⟨.comment (List.all_eq_true.mp ?_), .flag true ?_ ?_ ?_, .blank, .flag false ?_ ?_ ?_,
      .flag true ?_ ?_ ?_, .blank, nofun⟩
    all_goals decide
  have hdistinct : ((Flat.entries mixedLines .blank).map (·.1)).Nodup := by decide
  obtain ⟨status, hparse, hlength, henabled, -, -⟩ := parse_flags "status" hlines hdistinct
  have hgdrcopy : status.isEnabled .gdrcopy = true := (henabled .gdrcopy).mpr (by decide)
  have hgds : status.isEnabled .gds = true := (henabled .gds).mpr (by decide)
  have hrdma : status.isEnabled .gpuDirectRdma = false := by
    rw [← Bool.not_eq_true, henabled]
    decide
  refine ⟨hlines, hdistinct, status, hparse, hlength, ?_⟩
  rw [enabled, Feature.all]
  simp [hgdrcopy, hgds, hrdma]

end Flags

/-! ## Further keys -/

/-- The lines of some entries, each ended by a line feed. -/
def entryLines (entries : List (List Char × List Char)) : String :=
  String.ofList (entries.flatMap fun e => e.1 ++ ": ".toList ++ e.2 ++ "\n".toList)

/-- An entry with a key of a status file and a word of letters and digits. -/
structure IsEntry (entry : List Char × List Char) : Prop where
  key : Flat.IsKey entry.1
  length : entry.1.length ≤ 1000
  word : Flat.IsWord entry.2

instance (entry : List Char × List Char) : Decidable (IsEntry entry) :=
  decidable_of_iff (Flat.IsKey entry.1 ∧ entry.1.length ≤ 1000 ∧ Flat.IsWord entry.2)
    ⟨fun ⟨hkey, hlength, hword⟩ => ⟨hkey, hlength, hword⟩,
      fun hentry => ⟨hentry.key, hentry.length, hentry.word⟩⟩

section Entries

variable {entries : List (List Char × List Char)} {key word : List Char}

theorem entryLines_append (entries later : List (List Char × List Char)) :
    entryLines (entries ++ later) = entryLines entries ++ entryLines later := by
  rw [entryLines, entryLines, entryLines, List.flatMap_append, String.ofList_append]

theorem entryLines_eq (entries : List (List Char × List Char)) : entryLines entries =
    String.ofList (Flat.text (entries.map fun e => .entry e.1 e.2) .blank) := by
  rw [entryLines, Flat.text, List.flatMap_map, Flat.Line.chars, List.append_nil]
  refine congrArg String.ofList (congrArg (List.flatMap · entries) (funext fun e => ?_))
  simp [Flat.Line.chars]

theorem entries_entryLines (entries : List (List Char × List Char)) :
    Flat.entries (entries.map fun e => .entry e.1 e.2) .blank = entries := by
  induction entries with
  | nil => rfl
  | cons e entries ih =>
      rw [List.map_cons, Flat.entries_cons, ih]
      rfl

theorem isFlat_of_entries (hentries : ∀ e ∈ entries, IsEntry e)
    (hdistinct : (entries.map (·.1)).Nodup) :
    IsFlat (entries.map fun e => .entry e.1 e.2) .blank where
  proper line hline := by
    obtain ⟨e, he, rfl⟩ := List.mem_map.mp hline
    obtain ⟨hne, hplain⟩ := (hentries e he).key.isPlain
    obtain ⟨hne', hplain'⟩ := (hentries e he).word.isPlain
    exact .entry hne hplain (Nat.le_trans (hentries e he).length (by decide)) hne' hplain'
  proper_last := .blank
  keys := by
    rw [entries_entryLines]
    exact fun e he => (hentries e he).key
  distinct := by
    rw [entries_entryLines]
    exact hdistinct

/-- An entry whose key is none of the flags has no say in what a mapping holds under them. -/
theorem holds_append_iff (hunknown : ∀ f : Feature, key ≠ f.statusKey.toList)
    (values : List (Value × Value)) (v : Value) (f : Feature) (w : Value) :
    Holds (values ++ [(Flat.keyValue key, v)]) f w ↔ Holds values f w := by
  rw [Holds, Holds, List.mem_append, List.mem_singleton]
  refine or_iff_left fun hlast => ?_
  exact hunknown f (Flat.eq_of_keyValue (Prod.mk.inj hlast).1.symm)

theorem mapM_append_entry {values : List (Value × Value)}
    (hvalues : entries.mapM Flat.entryValue = .ok values) :
    (entries ++ [(key, word)]).mapM Flat.entryValue =
      (Value.ofPlain word).map fun v => values ++ [(Flat.keyValue key, v)] := by
  rw [List.mapM_append, hvalues, List.mapM_cons, List.mapM_nil, Flat.entryValue]
  cases Value.ofPlain word <;> rfl

section Further

variable {path : String} {status : FeatureStatus}
  (hentries : ∀ e ∈ entries ++ [(key, word)], IsEntry e)
  (hdistinct : ((entries ++ [(key, word)]).map (·.1)).Nodup)
  (hparse : parse path (entryLines entries) = .ok status)

include hentries hdistinct hparse

/-- An accepted file has the values of its entries, whatever entry may follow. -/
theorem values_of_parse : Value.Distinct status.entries ∧ (∀ f, Proper status.entries f) ∧
    (entries ++ [(key, word)]).mapM Flat.entryValue =
      (Value.ofPlain word).map fun v => status.entries ++ [(Flat.keyValue key, v)] := by
  have hflat : IsFlat (entries.map fun e => .entry e.1 e.2) .blank := by
    refine isFlat_of_entries (fun e he => hentries e (List.mem_append_left _ he)) ?_
    rw [List.map_append] at hdistinct
    exact (List.nodup_append.mp hdistinct).1
  rw [entryLines_eq, hflat.parse_eq_ok_iff] at hparse
  obtain ⟨hvalues, hproper⟩ := hparse
  refine ⟨hflat.distinct_values hvalues, hproper, mapM_append_entry ?_⟩
  rwa [entries_entryLines] at hvalues

theorem parse_of_readable (hunknown : ∀ f : Feature, key ≠ f.statusKey.toList) {v : Value}
    (hv : Value.ofPlain word = .ok v) :
    ∃ status', parse path (entryLines entries ++ entryLines [(key, word)]) = .ok status' ∧
      status'.enabled = status.enabled := by
  have hflat := isFlat_of_entries hentries hdistinct
  obtain ⟨hstatus, hproper, hvalues⟩ := values_of_parse hentries hdistinct hparse
  have hholds := holds_append_iff hunknown status.entries v
  rw [hv, ← entries_entryLines (entries ++ [(key, word)])] at hvalues
  rw [← entryLines_append, entryLines_eq]
  refine ⟨⟨status.entries ++ [(Flat.keyValue key, v)]⟩, hflat.parse_eq_ok_iff.mpr ⟨hvalues, ?_⟩, ?_⟩
  · exact fun f w hw => hproper f w ((hholds f w).mp hw)
  · exact enabled_congr hstatus (hflat.distinct_values hvalues) hholds

theorem parse_of_unreadable {e : Yaml.Error} (he : Value.ofPlain word = .error e) :
    parse path (entryLines entries ++ entryLines [(key, word)]) =
      .error (.statusInvalid path (.yaml e)) := by
  have hflat := isFlat_of_entries hentries hdistinct
  obtain ⟨-, -, hvalues⟩ := values_of_parse hentries hdistinct hparse
  rw [he, ← entries_entryLines (entries ++ [(key, word)])] at hvalues
  rw [← entryLines_append, entryLines_eq]
  exact hflat.parse_of_error hvalues

end Further

/-- A further entry whose key is no flag leaves the enabled features as they are, unless its word is a
whole number that no value holds: then the file is no status any more. -/
theorem parse_further_entry (path : String) {status : FeatureStatus}
    (hentries : ∀ e ∈ entries ++ [(key, word)], IsEntry e)
    (hdistinct : ((entries ++ [(key, word)]).map (·.1)).Nodup)
    (hunknown : ∀ f : Feature, key ≠ f.statusKey.toList)
    (hparse : parse path (entryLines entries) = .ok status) :
    (¬Flat.TooLarge word →
      ∃ status', parse path (entryLines entries ++ entryLines [(key, word)]) = .ok status' ∧
        status'.enabled = status.enabled) ∧
    (Flat.TooLarge word → parse path (entryLines entries ++ entryLines [(key, word)]) =
      .error (.statusInvalid path (.yaml (.wrongKind "any YAML value")))) := by
  have hword := (hentries (key, word) (List.mem_append_right _ (List.mem_singleton_self _))).word
  constructor
  · intro hlarge
    obtain ⟨v, hv⟩ := Flat.ofPlain_of_not_tooLarge hword hlarge
    exact parse_of_readable hentries hdistinct hparse hunknown hv
  · intro hlarge
    exact parse_of_unreadable hentries hdistinct hparse (Flat.ofPlain_of_tooLarge hword hlarge)

def gdsLine : List (List Char × List Char) := [("GDS_ENABLED".toList, "true".toList)]

/-- The build number of a driver, which needs 65 bits. -/
def buildNumber : List Char × List Char := ("DRIVER_BUILD".toList, "18446744073709551616".toList)

theorem isEntry_gdsLine : ∀ e ∈ gdsLine ++ [buildNumber], IsEntry e := by decide

theorem parse_gdsLine :
    parse "status" (entryLines gdsLine) = .ok ⟨gdsLine.map flagValue⟩ := by
  have hflat : IsFlat (gdsLine.map fun e => .entry e.1 e.2) .blank :=
    isFlat_of_entries (fun e he => isEntry_gdsLine e (List.mem_append_left _ he)) (by decide)
  rw [entryLines_eq, hflat.parse_eq_ok_iff, entries_entryLines]
  refine ⟨mapM_flags fun e he => ⟨true, ?_⟩, proper_flags gdsLine⟩
  rw [List.mem_singleton.mp he]
  decide

theorem tooLarge_buildNumber : Flat.TooLarge buildNumber.2 :=
  ⟨18446744073709551616, by decide, by decide, by decide⟩

theorem ne_statusKey_buildNumber (f : Feature) : buildNumber.1 ≠ f.statusKey.toList := by
  cases f <;> decide

theorem parse_further_entry_buildNumber :
    (∀ e ∈ gdsLine ++ [buildNumber], IsEntry e) ∧ Flat.TooLarge buildNumber.2 ∧
      parse "status" "GDS_ENABLED: true\nDRIVER_BUILD: 18446744073709551616\n" =
        .error (.statusInvalid "status" (.yaml (.wrongKind "any YAML value"))) :=
  ⟨isEntry_gdsLine, tooLarge_buildNumber, (parse_further_entry "status" isEntry_gdsLine (by decide)
    ne_statusKey_buildNumber parse_gdsLine).2 tooLarge_buildNumber⟩

/-- So it is not true that further entries never make a difference. -/
theorem not_parse_further_entry_always :
    ¬∀ (path : String) (entries : List (List Char × List Char)) (key word : List Char)
      (status : FeatureStatus), (∀ e ∈ entries ++ [(key, word)], IsEntry e) →
      ((entries ++ [(key, word)]).map (·.1)).Nodup → (∀ f : Feature, key ≠ f.statusKey.toList) →
      parse path (entryLines entries) = .ok status →
      ∃ status', parse path (entryLines entries ++ entryLines [(key, word)]) = .ok status' ∧
        status'.enabled = status.enabled := by
  intro halways
  have hunread := Flat.ofPlain_of_tooLarge (isEntry_gdsLine buildNumber (by simp)).word
    tooLarge_buildNumber
  have hreject := parse_of_unreadable isEntry_gdsLine (by decide) parse_gdsLine hunread
  obtain ⟨status, hstatus, -⟩ := halways "status" gdsLine buildNumber.1 buildNumber.2 _
    isEntry_gdsLine (by decide) ne_statusKey_buildNumber parse_gdsLine
  cases hstatus.symm.trans hreject

end Entries

end DriverValidation.FeatureStatus
