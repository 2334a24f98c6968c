import DriverValidation.Yaml.Value.OfDocument

/-!
The keys of the mappings that a text reads as. A key that is a text is met by the same text and by
nothing else, be it tagged or of another kind; and a mapping is read only if no two of its keys are
equal. So it holds at most one value under a text, wherever among its entries that stands.
-/

namespace DriverValidation.Yaml.Value

theorem same_text_iff {s : String} {v : Value} : same (.text s) v = true ↔ v = .text s := by
  cases v with
  | text t => rw [same, beq_iff_eq, text.injEq, eq_comm]
  | null | boolean | integer | float | sequence | mapping | tagged => simp [same]

theorem same_boolean_iff {b : Bool} {v : Value} : same (.boolean b) v = true ↔ v = .boolean b := by
  cases v with
  | boolean c => rw [same, beq_iff_eq, boolean.injEq, eq_comm]
  | null | integer | float | text | sequence | mapping | tagged => simp [same]

theorem kind_of_same {v w : Value} (hsame : same v w = true) : w.kind = v.kind := by
  cases v <;> cases w <;> simp_all [same, kind]

/-- No entry has the key of one before it. -/
def Distinct (entries : List (Value × Value)) : Prop :=
  entries.Pairwise fun earlier later => same later.1 earlier.1 = false

/-- A mapping holds one value under a text. -/
theorem Distinct.eq_of_mem {entries : List (Value × Value)} {key : String} {v w : Value}
    (hdistinct : Distinct entries) (hv : (.text key, v) ∈ entries) (hw : (.text key, w) ∈ entries) :
    v = w := by
  induction hdistinct with
  | nil => cases hv
  | @cons e entries hfirst _ ih =>
      have hmeets : same (.text key) (.text key) = true := same_text_iff.mpr rfl
      rcases List.mem_cons.mp hv with rfl | hv <;> rcases List.mem_cons.mp hw with hw | hw
      · exact (Prod.mk.inj hw).2.symm
      · rw [hfirst _ hw] at hmeets
        cases hmeets
      · rw [← hw] at hfirst
        rw [hfirst _ hv] at hmeets
        cases hmeets
      · exact ih hv hw

/-! ## Reading mappings -/

theorem bind_apply {α β : Type} (x : Reading α) (f : α → Reading β) (left : Nat) :
    (x >>= f) left = (x left).bind fun a => f a.1 a.2 := rfl

theorem bind_eq_ok {α β : Type} {x : Reading α} {f : α → Reading β} {left : Nat} {b : β × Nat}
    (hbind : (x >>= f) left = .ok b) : ∃ a left', x left = .ok (a, left') ∧ f a left' = .ok b := by
  rw [bind_apply] at hbind
  cases hx : x left with
  | error e =>
      rw [hx] at hbind
      cases hbind
  | ok a =>
      rw [hx] at hbind
      exact ⟨a.1, a.2, rfl, hbind⟩

theorem hasKey_eq_false_iff {entries : List (Value × Value)} {key : Value} :
    hasKey entries key = false ↔ ∀ e ∈ entries, same key e.1 = false := by
  simp only [hasKey, List.any_eq_false, Bool.not_eq_true]

/-- Entries are read one by one behind those that are done, each with a new key. -/
theorem distinct_of_readEntries {read : Linked → Reading Value} {nodes : List (Linked × Linked)}
    {done : List (Value × Value)} {left : Nat} {result : List (Value × Value) × Nat}
    (hread : readEntries read done nodes left = .ok result) (hdone : Distinct done.reverse) :
    Distinct result.1 := by
  induction nodes generalizing done left with
  | nil =>
      rw [← Except.ok.inj hread]
      exact hdone
  | cons node nodes ih =>
      obtain ⟨key, left, -, hread⟩ := bind_eq_ok hread
      cases hkey : hasKey done key with
      | true =>
          rw [if_pos hkey] at hread
          cases hread
      | false =>
          rw [if_neg (by rw [hkey]; exact Bool.false_ne_true)] at hread
          obtain ⟨value, left, -, hread⟩ := bind_eq_ok hread
          refine ih hread ?_
          rw [Distinct, List.reverse_cons, List.pairwise_append]
          refine ⟨hdone, List.pairwise_singleton _ _, fun e he e' he' => ?_⟩
          rw [List.mem_singleton.mp he']
          exact hasKey_eq_false_iff.mp hkey e (List.mem_reverse.mp he)

/-- The value is no mapping. -/
def IsScalar (v : Value) : Prop := ∀ entries, v ≠ .mapping entries

theorem isScalar_of_ofPlain {cs : List Char} {v : Value} (hread : ofPlain cs = .ok v) :
    IsScalar v := by
  rintro entries rfl
  rw [ofPlain] at hread
  split at hread
  · cases hread
  · split at hread
    · cases hread
    · split at hread
      · cases hread
      · cases hread
      · split at hread
        · cases hread
        · split at hread <;> cases hread

theorem isScalar_of_ofUntagged {style : Style} {cs : List Char} {v : Value}
    (hread : ofUntagged style cs = .ok v) : IsScalar v := by
  rw [ofUntagged] at hread
  split at hread
  · exact isScalar_of_ofPlain hread
  · rw [← Except.ok.inj hread]
    exact nofun

theorem isScalar_of_ofScalar {tag : Option Tag} {style : Style} {cs : List Char} {v : Value}
    (hread : ofScalar tag style cs = .ok v) : IsScalar v := by
  rintro entries rfl
  rw [ofScalar.eq_def] at hread
  split at hread
  · exact isScalar_of_ofUntagged hread entries rfl
  · exact isScalar_of_ofUntagged hread entries rfl
  · cases hread
  · cases huntagged : ofUntagged style cs with
    | error e =>
        rw [huntagged] at hread
        cases hread
    | ok v =>
        rw [huntagged] at hread
        cases hread
  all_goals
    split at hread <;> cases hread

theorem eq_of_withTag {tag : Option Tag} {v : Value} {entries : List (Value × Value)}
    (htag : withTag tag v = .mapping entries) : v = .mapping entries := by
  rw [withTag.eq_def] at htag
  split at htag
  · cases htag
  · exact htag

/-- The entries of a mapping are read from those of a node. -/
theorem distinct_of_ofResolved {read : Option (Linked → Reading Value)} {node : Linked}
    {left left' : Nat} {entries : List (Value × Value)}
    (hread : ofResolved read node left = .ok (.mapping entries, left')) : Distinct entries := by
  cases node with
  | scalar p style cs =>
      rw [ofResolved] at hread
      dsimp only at hread
      cases hscalar : ofScalar p.tag style cs with
      | error e =>
          rw [hscalar] at hread
          cases hread
      | ok v =>
          rw [hscalar] at hread
          exact absurd (Prod.mk.inj (Except.ok.inj hread)).1 (isScalar_of_ofScalar hscalar entries)
  | sequence p items =>
      cases read with
      | none => cases hread
      | some read =>
          obtain ⟨values, left, -, hread⟩ := bind_eq_ok hread
          cases eq_of_withTag (Prod.mk.inj (Except.ok.inj hread)).1
  | mapping p nodes =>
      cases read with
      | none => cases hread
      | some read =>
          obtain ⟨values, left, hvalues, hread⟩ := bind_eq_ok hread
          rw [← mapping.inj (eq_of_withTag (Prod.mk.inj (Except.ok.inj hread)).1)]
          exact distinct_of_readEntries hvalues .nil
  | _ => cases hread

theorem ofNode_eq_ok {anchors : Anchors} {depth left : Nat} {node : Linked} {v : Value × Nat}
    (hread : ofNode anchors depth node left = .ok v) :
    ∃ read node left, ofResolved read node left = .ok v := by
  cases depth <;> rw [ofNode.eq_def] at hread <;> cases node <;>
    (obtain ⟨resolved, left, -, hread⟩ := bind_eq_ok hread
     exact ⟨_, _, _, hread⟩)

/-- A mapping that a text reads as has no key twice. -/
theorem distinct_of_ofText {s : String} {entries : List (Value × Value)}
    (hread : ofText s = .ok (.mapping entries)) : Distinct entries := by
  rw [ofText] at hread
  cases hdocument : Document.ofChars s.toList with
  | error e =>
      rw [hdocument] at hread
      cases hread
  | ok d =>
      rw [hdocument] at hread
      change ofDocument d = .ok (.mapping entries) at hread
      rw [ofDocument] at hread
      cases hroot : d.root with
      | none =>
          rw [hroot] at hread
          cases hread
      | some root =>
          rw [hroot] at hread
          dsimp only at hread
          cases hnode : (ofNode d.anchors depthLimit root).run d.aliasLimit with
          | error e =>
              rw [hnode] at hread
              cases hread
          | ok v =>
              rw [hnode] at hread
              obtain ⟨read, node, left, hresolved⟩ := ofNode_eq_ok hnode
              obtain ⟨v, left'⟩ := v
              obtain rfl : v = .mapping entries := Except.ok.inj hread
              exact distinct_of_ofResolved hresolved

end DriverValidation.Yaml.Value
