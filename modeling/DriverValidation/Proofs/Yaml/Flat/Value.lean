import DriverValidation.Proofs.Yaml.Flat.Tokens
import DriverValidation.Proofs.Yaml.Keys

/-!
The value of a flat document: null without entries, else the mapping of the values of its keys and words,
in the order of the lines.
-/

namespace DriverValidation.Yaml.Flat

/-! ## Nodes -/

def entryNodes {ρ : Type} (entry : List Char × List Char) : Node ρ × Node ρ :=
  (.scalar .none .plain entry.1, .scalar .none .plain entry.2)

theorem read_scalar (handles : Handles) (block indentless : Bool) (fuel : Nat) (word : List Char)
    (rest : List Token) :
    Node.read handles block indentless (fuel + 1) (.scalar .plain word :: rest) =
      .ok (.scalar .none .plain word, rest) := by
  rw [Node.read, Node.readProperties]
  all_goals simp [bind, Except.bind, pure, Except.pure]

theorem readBlockEntries_flat (handles : Handles) {entries : List (List Char × List Char)} {fuel : Nat}
    (hfuel : entries.length < fuel) (rest : List Token) :
    Node.readBlockEntries handles fuel (entries.flatMap entryTokens ++ .blockEnd :: rest) =
      .ok (entries.map entryNodes, rest) := by
  induction entries generalizing fuel with
  | nil =>
      obtain ⟨fuel, rfl⟩ := Nat.exists_eq_add_one_of_ne_zero (Nat.ne_of_gt hfuel)
      rfl
  | cons entry entries ih =>
      rw [List.length_cons] at hfuel
      obtain ⟨fuel, rfl⟩ := Nat.exists_eq_add_of_le' (Nat.le_trans (Nat.le_add_left 2 _) hfuel)
      have hrest : Node.readBlockEntries handles (fuel + 1)
          (entries.flatMap entryTokens ++ .blockEnd :: rest) = .ok (entries.map entryNodes, rest) :=
        ih (by omega)
      rw [List.flatMap_cons, entryTokens]
      simp only [List.cons_append, List.nil_append, Node.readBlockEntries]
      simp [Node.endsBlockEntry, read_scalar, bind, Except.bind, pure, Except.pure, hrest, entryNodes]

theorem read_opened (handles : Handles) {entries : List (List Char × List Char)} {fuel : Nat}
    (hfuel : entries.length + 1 < fuel) (rest : List Token) :
    Node.read handles true false fuel (opened entries ++ .blockEnd :: rest) =
      .ok (.mapping .none (entries.map entryNodes), rest) := by
  obtain ⟨fuel, rfl⟩ := Nat.exists_eq_add_one_of_ne_zero (Nat.ne_of_gt (Nat.zero_lt_of_lt hfuel))
  rw [opened, List.cons_append, Node.read, Node.readProperties]
  all_goals simp [readBlockEntries_flat handles (Nat.lt_of_succ_lt_succ hfuel), bind, Except.bind,
    pure, Except.pure]

def root? {ρ : Type} (entries : List (List Char × List Char)) : Option (Node ρ) :=
  if entries.isEmpty then none else some (.mapping .none (entries.map entryNodes))

theorem length_le_opened (entries : List (List Char × List Char)) :
    entries.length + 1 ≤ (opened entries).length := by
  induction entries with
  | nil => exact Nat.le_refl _
  | cons entry entries ih =>
      simp only [opened, List.flatMap_cons, List.length_cons, List.length_append, entryTokens] at ih ⊢
      omega

theorem ofTokens_opened (entries : List (List Char × List Char)) :
    Node.ofTokens (opened entries ++ [.blockEnd, .streamEnd]) =
      .ok (some (.mapping .none (entries.map entryNodes))) := by
  let ts := opened entries ++ [.blockEnd, .streamEnd]
  have hfuel : entries.length + 1 < 4 * (ts.length + 1) := by
    have hlength := length_le_opened entries
    rw [List.length_append]
    omega
  have hread := read_opened Handles.standard hfuel [.streamEnd]
  show (Node.read Handles.standard true false (4 * (ts.length + 1)) ts).bind _ = _
  rw [hread]
  rfl

theorem ofTokens_documentTokens (entries : List (List Char × List Char)) :
    Node.ofTokens (documentTokens entries) = .ok (root? entries) := by
  cases entries with
  | nil => rfl
  | cons entry entries => exact ofTokens_opened (entry :: entries)

theorem linkEntries_flat (a : Anchors) (entries : List (List Char × List Char)) :
    Node.linkEntries a (entries.map entryNodes) = .ok (entries.map entryNodes, a) := by
  induction entries with
  | nil => rfl
  | cons entry entries ih =>
      rw [List.map_cons, entryNodes, Node.linkEntries]
      simp [Node.link, Anchors.meet?, Anchors.settle, Properties.none, ih, bind, Except.bind, pure,
        Except.pure, entryNodes]

theorem document_ofChars_text {lines : List Line} {last : Line}
    (hlines : ∀ line ∈ lines, line.Proper) (hlast : last.Proper) :
    Document.ofChars (text lines last) = .ok ⟨root? (entries lines last), .none⟩ := by
  rw [Document.ofChars, ofChars_text hlines hlast]
  simp only [bind, Except.bind]
  rw [ofTokens_documentTokens]
  cases hentries : entries lines last with
  | nil => rfl
  | cons entry entries =>
      have hlink := linkEntries_flat .none (entry :: entries)
      rw [List.map_cons] at hlink
      simp [root?, Node.link, hlink, Anchors.meet?, Anchors.settle, Properties.none, bind, Except.bind,
        pure, Except.pure]

/-! ## Keys -/

/-- The keys of a status file: a capital letter, and capital letters, digits and underscores behind it. -/
def IsKey (key : List Char) : Prop :=
  ∃ first rest, key = first :: rest ∧ first.isUpper = true ∧
    ∀ c ∈ rest, (c.isUpper || c.isDigit || c == '_') = true

instance (key : List Char) : Decidable (IsKey key) :=
  match key with
  | [] => isFalse nofun
  | first :: rest =>
    decidable_of_iff (first.isUpper = true ∧
        (rest.all fun c => c.isUpper || c.isDigit || c == '_') = true)
      ⟨fun ⟨hfirst, hrest⟩ => ⟨first, rest, rfl, hfirst, List.all_eq_true.mp hrest⟩,
        fun ⟨_, _, hcons, hfirst, hrest⟩ => by
          obtain ⟨rfl, rfl⟩ := List.cons.inj hcons
          exact ⟨hfirst, List.all_eq_true.mpr hrest⟩⟩

/-- The value of a key: a text, but for the words that mean null or a truth value. -/
def keyValue (key : List Char) : Value :=
  if Meaning.isNull key then .null
  else
    match Meaning.boolean? key with
    | some b => .boolean b
    | none => .text (String.ofList key)

section Key

variable {c : Char} {cs key : List Char}

theorem ne_of_isUpper (hc : c.isUpper = true) {d : Char} (hd : d.isUpper = false) : c ≠ d := by
  rintro rfl
  rw [hc] at hd
  cases hd

theorem IsKey.isPlain (hkey : IsKey key) : key ≠ [] ∧ ∀ c ∈ key, isPlain c = true := by
  obtain ⟨first, rest, rfl, hfirst, hrest⟩ := hkey
  refine ⟨List.cons_ne_nil _ _, List.forall_mem_cons.mpr ⟨?_, fun c hc => ?_⟩⟩
  · exact isPlain_iff.mpr (Or.inl (Or.inl (Or.inl hfirst)))
  · have hplain := hrest c hc
    simp only [Bool.or_eq_true, beq_iff_eq] at hplain
    exact isPlain_iff.mpr (hplain.imp_left (Or.imp_left Or.inl))

/-- A capital letter is a digit of no base up to ten. -/
theorem le_of_hexDigit? {d : Nat} (hc : c.isUpper = true) (hdigit : Text.hexDigit? c = some d) :
    10 ≤ d := by
  have hrange := DriverValidation.Text.toNat_of_isUpper hc
  rw [Text.hexDigit?] at hdigit
  split at hdigit
  · rename_i hdecimal
    simp only [Bool.and_eq_true, decide_eq_true_eq, Char.le_def, UInt32.le_iff_toNat_le] at hdecimal
    have hhigh : c.toNat ≤ 57 := hdecimal.2
    omega
  · split at hdigit
    · rw [← Option.some.inj hdigit]
      exact Nat.le_add_left _ _
    · split at hdigit
      · rw [← Option.some.inj hdigit]
        exact Nat.le_add_left _ _
      · cases hdigit

theorem digits?_of_isUpper (hc : c.isUpper = true) : Meaning.digits? 10 (c :: cs) = none := by
  have hnone : ∀ (step : Option Nat → Char → Option Nat), (∀ d, step none d = none) →
      ∀ cs : List Char, cs.foldl step none = none := by
    intro step hstep cs
    induction cs with
    | nil => rfl
    | cons d cs ih => rw [List.foldl_cons, hstep, ih]
  rw [Meaning.digits?, List.isEmpty_cons, if_neg Bool.false_ne_true, List.foldl_cons]
  cases hdigit : Text.hexDigit? c with
  | none => exact hnone _ (fun _ => rfl) cs
  | some d =>
      have hlarge := le_of_hexDigit? hc hdigit
      simp only [Option.bind_eq_bind, Option.bind_some]
      rw [if_neg (Nat.not_lt.mpr hlarge)]
      exact hnone _ (fun _ => rfl) cs

theorem hasLeadingZero_of_isUpper (hc : c.isUpper = true) :
    Meaning.hasLeadingZero (c :: cs) = false := by
  have hsigned : Meaning.isSigned (c :: cs) = false := by
    simp [Meaning.isSigned, ne_of_isUpper hc (d := '+') (by decide),
      ne_of_isUpper hc (d := '-') (by decide)]
  rw [Meaning.hasLeadingZero, hsigned, if_neg Bool.false_ne_true]
  split
  · rename_i hzero
    cases hzero
    exact absurd hc (by decide)
  · rfl

theorem whole?_of_isUpper (hc : c.isUpper = true) : Meaning.whole? (c :: cs) = none := by
  have hbased : Meaning.based? (c :: cs) = none := by
    rw [Meaning.based?]
    all_goals
      rintro _ ⟨⟩
      exact absurd hc (by decide)
  have hnatural : Meaning.natural? (c :: cs) = none := by
    rw [Meaning.natural?, Meaning.withoutPlus]
    · rw [hbased, hasLeadingZero_of_isUpper hc, if_neg Bool.false_ne_true, digits?_of_isUpper hc]
    · rintro _ ⟨⟩
      exact absurd hc (by decide)
  have hnegated : Meaning.negated? (c :: cs) = none := by
    rw [Meaning.negated?]
    rintro _ ⟨⟩
    exact absurd hc (by decide)
  rw [Meaning.whole?, hnatural, hnegated]

theorem read?_of_isUpper (hc : c.isUpper = true) : Number.Decimal.read? (c :: cs) = none := by
  have hdigit : c.isDigit = false := by
    rw [← Bool.not_eq_true]
    intro hdigit
    have hrange := DriverValidation.Text.toNat_of_isUpper hc
    have hrange' := DriverValidation.Text.toNat_of_isDigit hdigit
    omega
  have hsign : Number.Decimal.splitSign (c :: cs) = (false, c :: cs) := by
    rw [Number.Decimal.splitSign]
    all_goals
      rintro _ ⟨⟩
      exact absurd hc (by decide)
  have hparts : Number.Decimal.parts? (c :: cs) = none := by
    rw [Number.Decimal.parts?, hsign]
    simp only [List.takeWhile_cons, List.dropWhile_cons, hdigit, Bool.false_eq_true, if_false]
    split
    · rename_i hpoint
      cases hpoint
      exact absurd hc (by decide)
    · rfl
  rw [Number.Decimal.read?, hparts]
  rfl

theorem float?_of_isUpper (hc : c.isUpper = true) : Meaning.float? (c :: cs) = none := by
  have hdot : c ≠ '.' := ne_of_isUpper hc (by decide)
  have hnan : Meaning.isNan (c :: cs) = false := by simp [Meaning.isNan, hdot]
  have hinfinity : Meaning.isInfinity (c :: cs) = false := by simp [Meaning.isInfinity, hdot]
  rw [Meaning.float?, hnan, if_neg Bool.false_ne_true]
  · rw [hinfinity, if_neg Bool.false_ne_true, read?_of_isUpper hc]
  all_goals
    rintro _ ⟨⟩
    exact absurd hc (by decide)

theorem ofPlain_key (hkey : IsKey key) : Value.ofPlain key = .ok (keyValue key) := by
  obtain ⟨first, rest, rfl, hfirst, -⟩ := hkey
  rw [Value.ofPlain, keyValue, whole?_of_isUpper hfirst, hasLeadingZero_of_isUpper hfirst,
    float?_of_isUpper hfirst]
  rw [List.isEmpty_cons, Bool.false_or]
  cases Meaning.isNull (first :: rest) with
  | true => rfl
  | false => cases Meaning.boolean? (first :: rest) <;> rfl

theorem isNull_of_isKey (hkey : IsKey key) (hnull : Meaning.isNull key = true) :
    key = ['N', 'U', 'L', 'L'] := by
  obtain ⟨first, rest, rfl, hfirst, hrest⟩ := hkey
  simp only [Meaning.isNull, Bool.or_eq_true, beq_iff_eq] at hnull
  rcases hnull with ((hnull | hnull) | hnull) | hnull
  · cases hnull
    exact absurd hfirst (by decide)
  · cases hnull
    exact absurd hfirst (by decide)
  · cases hnull
    exact absurd (hrest 'u' (by simp)) (by decide)
  · exact hnull

theorem boolean?_of_isKey {b : Bool} (hkey : IsKey key) (hboolean : Meaning.boolean? key = some b) :
    key = if b then ['T', 'R', 'U', 'E'] else ['F', 'A', 'L', 'S', 'E'] := by
  obtain ⟨first, rest, rfl, hfirst, hrest⟩ := hkey
  rw [Meaning.boolean?] at hboolean
  split at hboolean
  · rename_i htrue
    simp only [Bool.or_eq_true, beq_iff_eq] at htrue
    cases hboolean
    rcases htrue with (htrue | htrue) | htrue
    · cases htrue
      exact absurd hfirst (by decide)
    · cases htrue
      exact absurd (hrest 'r' (by simp)) (by decide)
    · exact htrue
  · split at hboolean
    · rename_i hfalse
      simp only [Bool.or_eq_true, beq_iff_eq] at hfalse
      cases hboolean
      rcases hfalse with (hfalse | hfalse) | hfalse
      · cases hfalse
        exact absurd hfirst (by decide)
      · cases hfalse
        exact absurd (hrest 'a' (by simp)) (by decide)
      · exact hfalse
    · cases hboolean

/-- What a key of a status file can stand for. -/
inductive Stands (key : List Char) : Value → Prop
  | null (hkey : key = ['N', 'U', 'L', 'L']) : Stands key .null
  | boolean (b : Bool) (hkey : key = if b then ['T', 'R', 'U', 'E'] else ['F', 'A', 'L', 'S', 'E']) :
      Stands key (.boolean b)
  | text : Stands key (.text (String.ofList key))

theorem stands_keyValue (hkey : IsKey key) : Stands key (keyValue key) := by
  rw [keyValue]
  split
  · exact .null (isNull_of_isKey hkey ‹_›)
  · split
    · exact .boolean _ (boolean?_of_isKey hkey ‹_›)
    · exact .text

/-- No two keys have the same value. -/
theorem eq_of_same_keyValue {key' : List Char} (hkey : IsKey key) (hkey' : IsKey key')
    (hsame : Value.same (keyValue key) (keyValue key') = true) : key = key' := by
  have hstands := stands_keyValue hkey
  have hstands' := stands_keyValue hkey'
  generalize keyValue key = v at hsame hstands
  generalize keyValue key' = v' at hsame hstands'
  cases hstands with
  | null hkey =>
      cases hstands' with
      | null hkey' => rw [hkey, hkey']
      | boolean | text => simp [Value.same] at hsame
  | boolean b hkey =>
      cases hstands' with
      | boolean b' hkey' =>
          rw [Value.same, beq_iff_eq] at hsame
          rw [hkey, hkey', hsame]
      | null | text => simp [Value.same] at hsame
  | text =>
      cases hstands' with
      | text =>
          rw [Value.same, beq_iff_eq] at hsame
          exact String.ofList_injective hsame
      | null | boolean => simp [Value.same] at hsame

theorem eq_of_keyValue {s : String} (htext : keyValue key = .text s) : key = s.toList := by
  rw [keyValue] at htext
  split at htext
  · cases htext
  · split at htext
    · cases htext
    · rw [← Value.text.inj htext, String.toList_ofList]

end Key

/-! ## Values -/

def entryValue (entry : List Char × List Char) : Except Error (Value × Value) :=
  (Value.ofPlain entry.2).map (keyValue entry.1, ·)

section Entries

variable {entries : List (List Char × List Char)}

/-- The value of a new key is none of the values of the keys before. -/
theorem hasKey_new {key : List Char} {done : List (List Char × Value)} (hkey : IsKey key)
    (hdone : ∀ d ∈ done, IsKey d.1 ∧ d.1 ≠ key) :
    Value.hasKey (done.map fun d => (keyValue d.1, d.2)) (keyValue key) = false := by
  rw [Value.hasKey_eq_false_iff]
  intro e he
  obtain ⟨d, hd, rfl⟩ := List.mem_map.mp he
  rw [← Bool.not_eq_true]
  intro hsame
  exact (hdone d hd).2 (eq_of_same_keyValue hkey (hdone d hd).1 hsame).symm

theorem readEntries_flat {read : Linked → Value.Reading Value}
    (hread : ∀ cs left, read (.scalar .none .plain cs) left = (Value.ofPlain cs).map (·, left))
    (hkeys : ∀ e ∈ entries, IsKey e.1) (hnodup : (entries.map (·.1)).Nodup)
    {done : List (List Char × Value)} (hdone : ∀ d ∈ done, IsKey d.1 ∧ d.1 ∉ entries.map (·.1))
    (left : Nat) :
    Value.readEntries read (done.map fun d => (keyValue d.1, d.2)) (entries.map entryNodes) left =
      (entries.mapM entryValue).map fun values =>
        ((done.map fun d => (keyValue d.1, d.2)).reverse ++ values, left) := by
  induction entries generalizing done left with
  | nil =>
      show Except.ok (_, left) = Except.ok (_ ++ [], left)
      rw [List.append_nil]
  | cons entry entries ih =>
      rw [List.map_cons, List.nodup_cons] at hnodup
      obtain ⟨hkey, hkeys⟩ := List.forall_mem_cons.mp hkeys
      have hnew := hasKey_new hkey fun d hd =>
        ⟨(hdone d hd).1, fun heq => (hdone d hd).2 (heq ▸ List.mem_cons_self)⟩
      rw [List.map_cons, entryNodes, Value.readEntries, Value.bind_apply, hread, ofPlain_key hkey]
      simp only [Except.map, Except.bind]
      rw [if_neg (by rw [hnew]; exact Bool.false_ne_true), Value.bind_apply, hread, List.mapM_cons,
        entryValue]
      cases hword : Value.ofPlain entry.2 with
      | error e => rfl
      | ok v =>
          have hdone' : ∀ d ∈ (entry.1, v) :: done, IsKey d.1 ∧ d.1 ∉ entries.map (·.1) :=
            List.forall_mem_cons.mpr ⟨⟨hkey, hnodup.1⟩, fun d hd =>
              ⟨(hdone d hd).1, fun hmem => (hdone d hd).2 (List.mem_cons_of_mem _ hmem)⟩⟩
          have hrest := ih hkeys hnodup.2 hdone' left
          rw [List.map_cons] at hrest
          simp only [Except.map, Except.bind, bind, pure, Except.pure] at hrest ⊢
          rw [hrest]
          cases entries.mapM entryValue <;> simp

theorem ofNode_scalar (anchors : Anchors) (depth : Nat) (cs : List Char) (left : Nat) :
    Value.ofNode anchors depth (.scalar .none .plain cs) left = (Value.ofPlain cs).map (·, left) := by
  have hresolved : ∀ read, Value.ofResolved read (.scalar .none .plain cs) left =
      (Value.ofPlain cs).map (·, left) := by
    intro read
    show (Value.ofPlain cs).bind _ = _
    cases Value.ofPlain cs <;> rfl
  cases depth with
  | zero => exact hresolved none
  | succ depth => exact hresolved (some (Value.ofNode anchors depth))

theorem ofNode_mapping (anchors : Anchors) (depth : Nat) (nodes : List (Linked × Linked)) (left : Nat) :
    Value.ofNode anchors (depth + 1) (.mapping .none nodes) left =
      (Value.readEntries (Value.ofNode anchors depth) [] nodes left).map fun a =>
        (.mapping a.1, a.2) := by
  show (Value.readEntries (Value.ofNode anchors depth) [] nodes left).bind _ = _
  cases Value.readEntries (Value.ofNode anchors depth) [] nodes left <;> rfl

/-- A flat document without entries reads as null, and any other one as the mapping of its entries, unless
one of its words cannot be read. -/
theorem ofText_text {lines : List Line} {last : Line} (hlines : ∀ line ∈ lines, line.Proper)
    (hlast : last.Proper) (hkeys : ∀ e ∈ Flat.entries lines last, IsKey e.1)
    (hnodup : ((Flat.entries lines last).map (·.1)).Nodup) :
    Value.ofText (String.ofList (text lines last)) =
      if (Flat.entries lines last).isEmpty then .ok .null
      else ((Flat.entries lines last).mapM entryValue).map .mapping := by
  rw [Value.ofText, String.toList_ofList, document_ofChars_text hlines hlast]
  show Value.ofDocument _ = _
  cases hentries : Flat.entries lines last with
  | nil => rfl
  | cons entry entries =>
      rw [hentries] at hkeys hnodup
      have hdone : ∀ d ∈ ([] : List (List Char × Value)),
          IsKey d.1 ∧ d.1 ∉ (entry :: entries).map (·.1) := fun d hd => absurd hd List.not_mem_nil
      have hread := readEntries_flat (ofNode_scalar .none 127) hkeys hnodup hdone
        (Document.aliasLimit ⟨root? (entry :: entries), .none⟩)
      rw [List.map_nil, List.reverse_nil] at hread
      have hroot : root? (entry :: entries) =
          some (Node.mapping .none ((entry :: entries).map entryNodes) : Linked) := rfl
      rw [Value.ofDocument]
      dsimp only
      rw [hroot] at hread ⊢
      dsimp only
      rw [StateT.run, Value.depthLimit, ofNode_mapping, hread]
      cases (entry :: entries).mapM entryValue <;> rfl

end Entries

/-! ## Words -/

/-- The words of a status file: letters and digits. -/
def IsWord (word : List Char) : Prop := word ≠ [] ∧ ∀ c ∈ word, c.isAlphanum = true

instance (word : List Char) : Decidable (IsWord word) :=
  decidable_of_iff (word ≠ [] ∧ word.all Char.isAlphanum = true)
    (and_congr_right fun _ => List.all_eq_true)

/-- A word is a whole number of more than 64 and at most 128 bits. -/
def TooLarge (word : List Char) : Prop :=
  ∃ n, Meaning.natural? word = some n ∧ 0x10000000000000000 ≤ n ∧
    n < 0x100000000000000000000000000000000

section Word

variable {word : List Char}

theorem IsWord.isPlain (hword : IsWord word) : word ≠ [] ∧ ∀ c ∈ word, isPlain c = true := by
  refine ⟨hword.1, fun c hc => ?_⟩
  rw [Flat.isPlain, hword.2 c hc, Bool.true_or]

theorem whole?_of_isNull {cs : List Char} (hnull : (cs.isEmpty || Meaning.isNull cs) = true) :
    Meaning.whole? cs = none := by
  simp only [Meaning.isNull, Bool.or_eq_true, List.isEmpty_iff, beq_iff_eq] at hnull
  rcases hnull with rfl | ((rfl | rfl) | rfl) | rfl <;> rfl

theorem whole?_of_boolean? {cs : List Char} {b : Bool} (hboolean : Meaning.boolean? cs = some b) :
    Meaning.whole? cs = none := by
  rw [Meaning.boolean?] at hboolean
  split at hboolean
  · rename_i htrue
    simp only [Bool.or_eq_true, beq_iff_eq] at htrue
    rcases htrue with (rfl | rfl) | rfl <;> rfl
  · split at hboolean
    · rename_i hfalse
      simp only [Bool.or_eq_true, beq_iff_eq] at hfalse
      rcases hfalse with (rfl | rfl) | rfl <;> rfl
    · cases hboolean

/-- A plain scalar cannot be read exactly if it is a whole number that no value holds. -/
theorem ofPlain_cases (cs : List Char) :
    (Meaning.whole? cs = some .tooLarge ∧
      Value.ofPlain cs = .error (.wrongKind "any YAML value")) ∨
    Meaning.whole? cs ≠ some .tooLarge ∧ ∃ v, Value.ofPlain cs = .ok v := by
  have hnone : (none : Option Meaning.Whole) ≠ some .tooLarge := by decide
  rw [Value.ofPlain]
  split
  · rw [whole?_of_isNull ‹_›]
    exact Or.inr ⟨hnone, _, rfl⟩
  · split
    · rw [whole?_of_boolean? ‹_›]
      exact Or.inr ⟨hnone, _, rfl⟩
    · split
      · rename_i hwhole
        rw [hwhole]
        exact Or.inr ⟨by simp, _, rfl⟩
      · exact Or.inl ⟨‹_›, rfl⟩
      · rename_i hwhole
        rw [hwhole]
        refine Or.inr ⟨hnone, ?_⟩
        split
        · exact ⟨_, rfl⟩
        · split <;> exact ⟨_, rfl⟩

theorem whole?_eq_tooLarge_iff (hword : IsWord word) :
    Meaning.whole? word = some .tooLarge ↔ TooLarge word := by
  have hnegated : Meaning.negated? word = none := by
    rw [Meaning.negated?]
    rintro rest rfl
    exact absurd (hword.2 '-' List.mem_cons_self) (by decide)
  rw [Meaning.whole?, hnegated, TooLarge]
  cases Meaning.natural? word with
  | none => simp
  | some n =>
      simp only [Option.some.injEq, exists_eq_left']
      split
      · simp
        omega
      · split
        · simp
          omega
        · simp
          omega

theorem ofPlain_of_tooLarge (hword : IsWord word) (hlarge : TooLarge word) :
    Value.ofPlain word = .error (.wrongKind "any YAML value") := by
  rcases ofPlain_cases word with ⟨-, herror⟩ | ⟨hwhole, -⟩
  · exact herror
  · exact absurd ((whole?_eq_tooLarge_iff hword).mpr hlarge) hwhole

theorem ofPlain_of_not_tooLarge (hword : IsWord word) (hlarge : ¬TooLarge word) :
    ∃ v, Value.ofPlain word = .ok v := by
  rcases ofPlain_cases word with ⟨hwhole, -⟩ | ⟨-, hok⟩
  · exact absurd ((whole?_eq_tooLarge_iff hword).mp hwhole) hlarge
  · exact hok

theorem ofPlain_of_boolean? {b : Bool} (hboolean : Meaning.boolean? word = some b) :
    Value.ofPlain word = .ok (.boolean b) := by
  have hnull : (word.isEmpty || Meaning.isNull word) = false := by
    rw [← Bool.not_eq_true]
    intro hnull
    simp only [Meaning.isNull, Bool.or_eq_true, List.isEmpty_iff, beq_iff_eq] at hnull
    rcases hnull with rfl | ((rfl | rfl) | rfl) | rfl <;> cases hboolean
  rw [Value.ofPlain, hnull, hboolean]
  rfl

end Word

end DriverValidation.Yaml.Flat
