import DriverValidation.FeatureStatus
import DriverValidation.Proofs.Yaml.Keys

/-!
The flags of a feature status. The value of a flag is the one that stands under the flag's key, a
text, somewhere among the entries; entries with other keys, and the order of all of them, have no say
in which flags are set or wrong.
-/

namespace DriverValidation.FeatureStatus

open Yaml (Value Kind)

theorem enabled_sublist (status : FeatureStatus) : status.enabled.Sublist Feature.all :=
  List.filter_sublist

theorem enabled_nodup (status : FeatureStatus) : status.enabled.Nodup :=
  status.enabled_sublist.nodup (by decide)

theorem isEnabled_iff (status : FeatureStatus) (f : Feature) :
    status.isEnabled f = true ↔ status.get? f.statusKey = some (.boolean true) := by
  rw [isEnabled]
  constructor
  · intro hflag
    split at hflag
    · assumption
    · cases hflag
  · intro hflag
    rw [hflag]

theorem mem_enabled_iff (status : FeatureStatus) (f : Feature) :
    f ∈ status.enabled ↔ status.get? f.statusKey = some (.boolean true) := by
  rw [enabled, List.mem_filter, isEnabled_iff]
  exact ⟨And.right, fun hflag => ⟨f.mem_all, hflag⟩⟩

/-- A mapping holds a value under the key of a feature's flag. -/
def Holds (entries : List (Value × Value)) (f : Feature) (v : Value) : Prop :=
  (.text f.statusKey, v) ∈ entries

/-- The flag of a feature is absent from a mapping or a truth value. -/
def Proper (entries : List (Value × Value)) (f : Feature) : Prop :=
  ∀ v, Holds entries f v → v.kind = .boolean

section Lookup

variable {entries : List (Value × Value)} {f : Feature} {v : Value}

theorem holds_of_get? (hget : get? ⟨entries⟩ f.statusKey = some v) : Holds entries f v := by
  obtain ⟨⟨key, w⟩, hfind, rfl⟩ := Option.map_eq_some_iff.mp hget
  have hmeets := List.find?_some hfind
  dsimp only at hmeets
  obtain rfl := Value.same_text_iff.mp hmeets
  exact List.mem_of_find?_eq_some hfind

theorem get?_eq_none_iff : get? ⟨entries⟩ f.statusKey = none ↔ ∀ v, ¬Holds entries f v := by
  rw [get?, Option.map_eq_none_iff, List.find?_eq_none]
  constructor
  · exact fun hmissing v hv => hmissing _ hv (Value.same_text_iff.mpr rfl)
  · rintro hmissing ⟨key, v⟩ he hmeets
    obtain rfl := Value.same_text_iff.mp hmeets
    exact hmissing v he

/-- What is looked up under the key of a flag is what the mapping holds there. -/
theorem get?_eq_some_iff (hdistinct : Value.Distinct entries) :
    get? ⟨entries⟩ f.statusKey = some v ↔ Holds entries f v := by
  refine ⟨holds_of_get?, fun hv => ?_⟩
  cases hget : get? ⟨entries⟩ f.statusKey with
  | none => exact absurd hv (get?_eq_none_iff.mp hget v)
  | some w => rw [hdistinct.eq_of_mem (holds_of_get? hget) hv]

theorem wrongKind?_eq_none_iff : wrongKind? v = none ↔ v.kind = .boolean := by
  cases v <;> simp [wrongKind?, Value.kind]

theorem wrongKind?_of_ne (hkind : v.kind ≠ .boolean) : wrongKind? v = some v.kind := by
  cases v with
  | boolean b => exact absurd rfl hkind
  | null | integer | float | text | sequence | mapping | tagged => rfl

theorem wrongKind?_get?_of_proper (hproper : Proper entries f) :
    (get? ⟨entries⟩ f.statusKey).bind wrongKind? = none := by
  cases hget : get? ⟨entries⟩ f.statusKey with
  | none => rfl
  | some v => exact wrongKind?_eq_none_iff.mpr (hproper v (holds_of_get? hget))

theorem wrongKind?_get?_of_holds (hdistinct : Value.Distinct entries) (hv : Holds entries f v)
    (hkind : v.kind ≠ .boolean) : (get? ⟨entries⟩ f.statusKey).bind wrongKind? = some v.kind := by
  rw [(get?_eq_some_iff hdistinct).mpr hv]
  exact wrongKind?_of_ne hkind

/-- No flag is wrong exactly if each is absent or a truth value. -/
theorem wrongFlag?_eq_none_iff (hdistinct : Value.Distinct entries) :
    wrongFlag? ⟨entries⟩ = none ↔ ∀ f, Proper entries f := by
  rw [wrongFlag?, List.findSome?_eq_none_iff]
  constructor
  · intro hnone f v hv
    refine Decidable.byContradiction fun hkind => ?_
    have hf := hnone f f.mem_all
    rw [wrongKind?_get?_of_holds hdistinct hv hkind] at hf
    cases hf
  · intro hproper f _
    rw [wrongKind?_get?_of_proper (hproper f)]
    rfl

/-- The wrong flag that is told is the first one in the order of the features. -/
theorem wrongFlag?_of_holds {before after : List Feature} (hdistinct : Value.Distinct entries)
    (horder : Feature.all = before ++ f :: after) (hbefore : ∀ g ∈ before, Proper entries g)
    (hv : Holds entries f v) (hkind : v.kind ≠ .boolean) :
    wrongFlag? ⟨entries⟩ = some (f, v.kind) := by
  rw [wrongFlag?, horder, List.findSome?_append, List.findSome?_eq_none_iff.mpr]
  · rw [Option.none_or, List.findSome?_cons, wrongKind?_get?_of_holds hdistinct hv hkind]
    rfl
  · intro g hg
    rw [wrongKind?_get?_of_proper (hbefore g hg)]
    rfl

/-- The enabled features depend on nothing but what a mapping holds under the keys of the flags. -/
theorem enabled_congr {entries' : List (Value × Value)} (hdistinct : Value.Distinct entries)
    (hdistinct' : Value.Distinct entries') (hholds : ∀ f v, Holds entries' f v ↔ Holds entries f v) :
    enabled ⟨entries'⟩ = enabled ⟨entries⟩ := by
  rw [enabled, enabled]
  refine congrArg (List.filter · Feature.all) (funext fun f => ?_)
  rw [Bool.eq_iff_iff, isEnabled_iff, isEnabled_iff, get?_eq_some_iff hdistinct,
    get?_eq_some_iff hdistinct', hholds]

end Lookup

end DriverValidation.FeatureStatus
