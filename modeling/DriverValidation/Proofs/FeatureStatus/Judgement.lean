import DriverValidation.Proofs.FeatureStatus.Flags

/-!
Which texts are a feature status, and why the others are not. White space alone is an empty status
whatever it reads as; else the value that the text reads as decides. A mapping is a status if none of
its flags is anything but a truth value, and the first wrong flag is told in the order of the features,
not of the text.
-/

namespace DriverValidation.FeatureStatus

open Yaml (Value Kind)

/-- The text has no character but white space. -/
def Blank (s : String) : Prop := ∀ c ∈ s.toList, Text.isBlank c = true

section Reading

variable {s : String} {reading : Except Yaml.Error Value} {entries : List (Value × Value)}
  {status : FeatureStatus} {v : Value}

theorem mapError_eq_ok_iff {α ε ε' : Type} {x : Except ε α} {f : ε → ε'} {a : α} :
    x.mapError f = .ok a ↔ x = .ok a := by
  cases x with
  | error e =>
      constructor
      · intro herror
        cases herror
      · intro herror
        cases herror
  | ok b =>
      show (Except.ok b : Except ε' α) = .ok a ↔ _
      rw [Except.ok.injEq, Except.ok.injEq]

theorem map_mapError {α β ε ε' : Type} (x : Except ε α) (f : ε → ε') (g : α → β) :
    (x.mapError f).map g = (x.map g).mapError f := by
  cases x <;> rfl

theorem isAllBlank_iff : Text.isAllBlank s = true ↔ Blank s := List.all_eq_true

theorem ofReading_of_blank (hblank : Blank s) : ofReading s reading = .ok empty :=
  if_pos (isAllBlank_iff.mpr hblank)

theorem ofReading_error (hblank : ¬Blank s) (e : Yaml.Error) :
    ofReading s (.error e) = .error (.yaml e) :=
  if_neg (not_congr isAllBlank_iff |>.mpr hblank)

theorem ofReading_ok (hblank : ¬Blank s) (v : Value) : ofReading s (.ok v) = ofValue v :=
  if_neg (not_congr isAllBlank_iff |>.mpr hblank)

theorem ofValue_of_kind (hnull : v.kind ≠ .null) (hmapping : v.kind ≠ .mapping) :
    ofValue v = .error (.notAMapping v.kind) := by
  cases v with
  | null => exact absurd rfl hnull
  | mapping entries => exact absurd rfl hmapping
  | boolean | integer | float | text | sequence | tagged => rfl

/-- The values that are a status: null, which is the empty one, and mappings without wrong flags. -/
theorem ofValue_eq_ok_iff (hdistinct : ∀ entries, v = .mapping entries → Value.Distinct entries) :
    ofValue v = .ok status ↔ v = .null ∧ status = empty ∨
      v = .mapping status.entries ∧ ∀ f, Proper status.entries f := by
  cases v with
  | null => simp [ofValue, eq_comm]
  | mapping entries =>
      rw [ofValue]
      cases hwrong : wrongFlag? ⟨entries⟩ with
      | none =>
          have hproper := (wrongFlag?_eq_none_iff (hdistinct entries rfl)).mp hwrong
          constructor
          · intro hok
            rw [← Except.ok.inj hok]
            exact Or.inr ⟨rfl, hproper⟩
          · rintro (⟨hnull, -⟩ | ⟨hentries, -⟩)
            · cases hnull
            · rw [Value.mapping.inj hentries]
      | some wrong =>
          constructor
          · exact nofun
          · rintro (⟨hnull, -⟩ | ⟨hentries, hproper⟩)
            · cases hnull
            · rw [← Value.mapping.inj hentries,
                ← wrongFlag?_eq_none_iff (hdistinct entries rfl), hwrong] at hproper
              cases hproper
  | boolean | integer | float | text | sequence | tagged => simp [ofValue]

/-- How a text comes to be a status: it is white space or reads as null, or as a mapping. -/
def Accepts (s : String) (reading : Except Yaml.Error Value) (status : FeatureStatus) : Prop :=
  (Blank s ∨ reading = .ok .null) ∧ status = empty ∨
    ¬Blank s ∧ reading = .ok (.mapping status.entries) ∧ ∀ f, Proper status.entries f

theorem ofReading_eq_ok_iff
    (hdistinct : ∀ entries, reading = .ok (.mapping entries) → Value.Distinct entries) :
    ofReading s reading = .ok status ↔ Accepts s reading status := by
  rw [Accepts]
  by_cases hblank : Blank s
  · rw [ofReading_of_blank hblank]
    simp [hblank, eq_comm]
  · cases reading with
    | error e => simp [ofReading_error hblank, hblank]
    | ok v =>
        rw [ofReading_ok hblank,
          ofValue_eq_ok_iff fun entries hv => hdistinct entries (congrArg _ hv)]
        simp [hblank]

end Reading

/-- The status file at a path is rejected for a reason that has this wording. -/
structure Rejects (path : String) (outcome : Except ValidationError FeatureStatus) (reason : Reason)
    (wording : String) : Prop where
  outcome : outcome = .error (.statusInvalid path reason)
  wording : reason.message = wording

/-- What comes of a text, for the file at a path, by what the text reads as. -/
structure Judged (path s : String) (reading : Except Yaml.Error Value)
    (outcome : Except ValidationError FeatureStatus) : Prop where
  /-- A status is white space, null, or a mapping whose flags are absent or truth values. -/
  accepted_iff : (∃ status, outcome = .ok status) ↔
    Blank s ∨ reading = .ok .null ∨ ∃ entries, reading = .ok (.mapping entries) ∧
      ∀ f, Proper entries f
  /-- It is empty for white space, null, and the mapping without entries. -/
  empty_iff : ∀ status, outcome = .ok status →
    (status = empty ↔ Blank s ∨ reading = .ok .null ∨ reading = .ok (.mapping []))
  /-- Else it has all entries of the mapping. -/
  entries_kept : ∀ status, outcome = .ok status → status ≠ empty →
    reading = .ok (.mapping status.entries)
  /-- A feature is enabled exactly if its flag is the truth value true. -/
  enabled_iff : ∀ status f, outcome = .ok status →
    (status.isEnabled f = true ↔ Holds status.entries f (.boolean true))
  /-- The enabled features are told in their order, each once. -/
  enabled_in_order : ∀ status, outcome = .ok status →
    status.enabled.Sublist [.gdrcopy, .gds, .gpuDirectRdma] ∧
      ∀ f, f ∈ status.enabled ↔ status.isEnabled f = true
  /-- What is no status is rejected as the file at the path. -/
  rejected : ∀ e, outcome = .error e → ∃ reason, e = .statusInvalid path reason
  /-- A text that cannot be read is rejected for that. -/
  unreadable : ∀ e, ¬Blank s → reading = .error e → Rejects path outcome (.yaml e) e.message
  /-- A value that is neither null nor a mapping is rejected by its kind. -/
  noMapping : ∀ v, ¬Blank s → reading = .ok v → v.kind ≠ .null → v.kind ≠ .mapping →
    Rejects path outcome (.notAMapping v.kind)
      ("expected a mapping of feature flags, found " ++ v.kind.name)
  /-- A mapping with wrong flags is rejected by the kind of the first one, in the order of the
  features. -/
  noTruthValue : ∀ entries before f after v, ¬Blank s → reading = .ok (.mapping entries) →
    [.gdrcopy, .gds, .gpuDirectRdma] = before ++ f :: after → (∀ g ∈ before, Proper entries g) →
    Holds entries f v → v.kind ≠ .boolean →
    Rejects path outcome (.notABoolean f v.kind)
      (f.statusKey ++ " must be a boolean, found " ++ v.kind.name)

section Judged

variable {path s : String} {reading : Except Yaml.Error Value}

/-- What is accepted does not depend on the path. -/
theorem accepts_iff {status : FeatureStatus}
    (hdistinct : ∀ entries, reading = .ok (.mapping entries) → Value.Distinct entries) :
    (ofReading s reading).mapError (ValidationError.statusInvalid path) = .ok status ↔
      Accepts s reading status := by
  rw [mapError_eq_ok_iff, ofReading_eq_ok_iff hdistinct]

theorem exists_accepts {entries : List (Value × Value)} (hreading : reading = .ok (.mapping entries))
    (hproper : ∀ f, Proper entries f) : ∃ status, Accepts s reading status := by
  by_cases hblank : Blank s
  · exact ⟨empty, Or.inl ⟨Or.inl hblank, rfl⟩⟩
  · exact ⟨⟨entries⟩, Or.inr ⟨hblank, hreading, hproper⟩⟩

theorem Accepts.eq_empty_iff {status : FeatureStatus} (haccepts : Accepts s reading status) :
    status = empty ↔ Blank s ∨ reading = .ok .null ∨ reading = .ok (.mapping []) := by
  rcases haccepts with ⟨hempty, rfl⟩ | ⟨hblank, rfl, -⟩
  · exact ⟨fun _ => hempty.imp_right Or.inl, fun _ => rfl⟩
  · constructor
    · rintro rfl
      exact Or.inr (Or.inr rfl)
    · rintro (hblank' | hnull | hnone)
      · exact absurd hblank' hblank
      · cases hnull
      · obtain ⟨entries⟩ := status
        obtain rfl : entries = [] := Value.mapping.inj (Except.ok.inj hnone)
        rfl

/-- A text is judged by what it reads as, whatever that is, as long as a mapping has no key twice. -/
theorem judged_of_reading (path s : String)
    (hdistinct : ∀ entries, reading = .ok (.mapping entries) → Value.Distinct entries) :
    Judged path s reading ((ofReading s reading).mapError (ValidationError.statusInvalid path)) where
  accepted_iff := by
    simp only [accepts_iff hdistinct]
    constructor
    · rintro ⟨status, ⟨hempty, -⟩ | ⟨-, hreading, hproper⟩⟩
      · exact hempty.imp_right Or.inl
      · exact Or.inr (Or.inr ⟨status.entries, hreading, hproper⟩)
    · rintro (hblank | hnull | ⟨entries, hreading, hproper⟩)
      · exact ⟨empty, Or.inl ⟨Or.inl hblank, rfl⟩⟩
      · exact ⟨empty, Or.inl ⟨Or.inr hnull, rfl⟩⟩
      · exact exists_accepts hreading hproper
  empty_iff status hstatus := ((accepts_iff hdistinct).mp hstatus).eq_empty_iff
  entries_kept status hstatus hempty := by
    rcases (accepts_iff hdistinct).mp hstatus with ⟨-, rfl⟩ | ⟨-, hreading, -⟩
    · exact absurd rfl hempty
    · exact hreading
  enabled_iff status f hstatus := by
    rw [isEnabled_iff]
    rcases (accepts_iff hdistinct).mp hstatus with ⟨-, rfl⟩ | ⟨-, hreading, -⟩
    · exact get?_eq_some_iff .nil
    · exact get?_eq_some_iff (hdistinct status.entries hreading)
  enabled_in_order status _ :=
    ⟨status.enabled_sublist, fun f => by rw [mem_enabled_iff, isEnabled_iff]⟩
  rejected e he := by
    cases hreading : ofReading s reading with
    | ok status =>
        rw [hreading] at he
        cases he
    | error reason =>
        rw [hreading] at he
        exact ⟨reason, (Except.error.inj he).symm⟩
  unreadable e hblank hreading := by
    rw [hreading, ofReading_error hblank]
    exact ⟨rfl, rfl⟩
  noMapping v hblank hreading hnull hmapping := by
    rw [hreading, ofReading_ok hblank, ofValue_of_kind hnull hmapping]
    exact ⟨rfl, rfl⟩
  noTruthValue entries before f after v hblank hreading horder hbefore hv hkind := by
    rw [hreading, ofReading_ok hblank, ofValue,
      wrongFlag?_of_holds (hdistinct entries hreading) horder hbefore hv hkind]
    exact ⟨rfl, rfl⟩

end Judged

/-- What is read from the status file is judged by what its text reads as. -/
theorem parse_judged (path s : String) : Judged path s (Value.ofText s) (parse path s) :=
  judged_of_reading path s fun _ hread => Value.distinct_of_ofText hread

end DriverValidation.FeatureStatus
