import DriverValidation.Proofs.FeatureStatus.Judgement
import DriverValidation.Proofs.Files.Variant
import DriverValidation.Proofs.Yaml.Blank

/-!
Two status files that agree about the flags. Where they hold equal values under the key of each flag,
or neither sets it, the same features are enabled or the same fault is found, whatever else the files
have and in whichever order.
-/

namespace DriverValidation.FeatureStatus

open Yaml (Value Kind)

/-- The flag of a feature is absent from a mapping or false. -/
def Unset (entries : List (Value × Value)) (f : Feature) : Prop :=
  ∀ v, Holds entries f v → v = .boolean false

/-- Two mappings agree about the flag of a feature: they hold equal values under its key, or neither
sets it. -/
def Agree (entries entries' : List (Value × Value)) (f : Feature) : Prop :=
  (∃ v v', Holds entries f v ∧ Holds entries' f v' ∧ Value.same v v' = true) ∨
    Unset entries f ∧ Unset entries' f

section Agreement

variable {entries entries' : List (Value × Value)} {f : Feature} {v v' : Value}

theorem Unset.proper (hunset : Unset entries f) : Proper entries f := fun v hv => by
  rw [hunset v hv]
  rfl

theorem Unset.isEnabled_eq (hunset : Unset entries f) : isEnabled ⟨entries⟩ f = false := by
  rw [Bool.eq_false_iff]
  intro hflag
  cases hunset _ (holds_of_get? ((isEnabled_iff ⟨entries⟩ f).mp hflag))

theorem wrongKind?_of_same (hsame : Value.same v v' = true) : wrongKind? v' = wrongKind? v := by
  have hkind := Value.kind_of_same hsame
  by_cases hboolean : v.kind = .boolean
  · rw [wrongKind?_eq_none_iff.mpr hboolean, wrongKind?_eq_none_iff.mpr (hkind.trans hboolean)]
  · rw [wrongKind?_of_ne hboolean, wrongKind?_of_ne (hkind ▸ hboolean), hkind]

theorem eq_boolean_iff_of_same {b : Bool} (hsame : Value.same v v' = true) :
    v' = .boolean b ↔ v = .boolean b := by
  constructor
  · rintro rfl
    have hkind := Value.kind_of_same hsame
    cases v with
    | boolean c => rw [Value.boolean.inj (Value.same_boolean_iff.mp hsame)]
    | null | integer | float | text | sequence | mapping | tagged => cases hkind
  · rintro rfl
    exact Value.same_boolean_iff.mp hsame

/-- Mappings that agree about a flag have the same to say about it: whether it is wrong and what it is
then, and whether it is set. -/
theorem flag_of_agree (hdistinct : Value.Distinct entries) (hdistinct' : Value.Distinct entries')
    (hagree : Agree entries entries' f) :
    (get? ⟨entries'⟩ f.statusKey).bind wrongKind? = (get? ⟨entries⟩ f.statusKey).bind wrongKind? ∧
      isEnabled ⟨entries'⟩ f = isEnabled ⟨entries⟩ f := by
  rcases hagree with ⟨v, v', hv, hv', hsame⟩ | ⟨hunset, hunset'⟩
  · rw [← get?_eq_some_iff hdistinct] at hv
    rw [← get?_eq_some_iff hdistinct'] at hv'
    refine ⟨?_, ?_⟩
    · rw [hv, hv']
      exact wrongKind?_of_same hsame
    · rw [Bool.eq_iff_iff, isEnabled_iff, isEnabled_iff, hv, hv', Option.some.injEq,
        Option.some.injEq]
      exact eq_boolean_iff_of_same hsame
  · rw [wrongKind?_get?_of_proper hunset.proper, wrongKind?_get?_of_proper hunset'.proper,
      hunset.isEnabled_eq, hunset'.isEnabled_eq]
    exact ⟨rfl, rfl⟩

variable (hdistinct : Value.Distinct entries) (hdistinct' : Value.Distinct entries')
  (hagree : ∀ f, Agree entries entries' f)

include hdistinct hdistinct' hagree

theorem wrongFlag?_of_agree : wrongFlag? ⟨entries'⟩ = wrongFlag? ⟨entries⟩ := by
  rw [wrongFlag?, wrongFlag?]
  refine congrArg (List.findSome? · Feature.all) (funext fun f => ?_)
  rw [(flag_of_agree hdistinct hdistinct' (hagree f)).1]

theorem enabled_of_agree : enabled ⟨entries'⟩ = enabled ⟨entries⟩ := by
  rw [enabled, enabled]
  exact congrArg (List.filter · Feature.all)
    (funext fun f => (flag_of_agree hdistinct hdistinct' (hagree f)).2)

/-- Mappings that agree about the flags are statuses with the same enabled features, or faulty in the
same way. -/
theorem ofValue_of_agree :
    (ofValue (.mapping entries')).map enabled = (ofValue (.mapping entries)).map enabled := by
  rw [ofValue, ofValue, wrongFlag?_of_agree hdistinct hdistinct' hagree]
  cases wrongFlag? ⟨entries⟩ with
  | none => exact congrArg Except.ok (enabled_of_agree hdistinct hdistinct' hagree)
  | some wrong => rfl

end Agreement

/-- The contents of a file are text that reads as a mapping. -/
def ReadsAs (bytes : List UInt8) (entries : List (Value × Value)) : Prop :=
  ∃ s, Text.Utf8.decode bytes = .ok s ∧ Value.ofText s = .ok (.mapping entries)

theorem ReadsAs.distinct {bytes : List UInt8} {entries : List (Value × Value)}
    (hreads : ReadsAs bytes entries) : Value.Distinct entries := by
  obtain ⟨s, -, hread⟩ := hreads
  exact Value.distinct_of_ofText hread

theorem ReadsAs.ofBytes_eq {bytes : List UInt8} {entries : List (Value × Value)}
    (hreads : ReadsAs bytes entries) : ofBytes bytes = ofValue (.mapping entries) := by
  obtain ⟨s, hdecode, hread⟩ := hreads
  have hblank : ¬Blank s := fun hblank => Value.isScalar_of_isBlank hblank hread entries rfl
  rw [ofBytes, hdecode]
  dsimp only
  rw [ofText, hread, ofReading_ok hblank]

/-- In trees that differ only in a file whose contents agree about the flags, a status file is loaded
with the same enabled features or with the same failure. -/
theorem load_of_agree {place : Files.Place} {bytes bytes' : List UInt8} {t t' : Files.Tree}
    {entries entries' : List (Value × Value)} (htrees : Files.Tree.Variant place bytes bytes' t t')
    (hreads : ReadsAs bytes entries) (hreads' : ReadsAs bytes' entries')
    (hagree : ∀ f, Agree entries entries' f) (path : String) :
    (load t' path).map enabled = (load t path).map enabled := by
  rw [load, load]
  rcases htrees.read path with hsame | ⟨hread, hread'⟩
  · rw [hsame]
  · have hvalue := ofValue_of_agree hreads.distinct hreads'.distinct hagree
    rw [hread, hread']
    dsimp only
    rw [hreads.ofBytes_eq, hreads'.ofBytes_eq, map_mapError, map_mapError, hvalue]

end DriverValidation.FeatureStatus
