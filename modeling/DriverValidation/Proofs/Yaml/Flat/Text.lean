import DriverValidation.Proofs.Text.Ascii
import DriverValidation.Yaml.Token.Lexer

/-!
Flat documents. Each of their lines is empty, a comment, or an entry: a key, a colon, a space and a
word. Keys and words are made of letters, digits and underscores, so nothing in them has a meaning of its
own.
-/

namespace DriverValidation.Yaml.Flat

open DriverValidation.Text (toNat_of_isUpper toNat_of_isLower toNat_of_isDigit)

/-- The characters of keys and words: letters, digits and the underscore. -/
def isPlain (c : Char) : Bool := c.isAlphanum || c == '_'

/-- The characters of comments. -/
def isPrintable (c : Char) : Bool := 0x20 ≤ c.toNat && c.toNat ≤ 0x7E

/-- A line of a flat document. -/
inductive Line where
  | blank
  | comment (text : List Char)
  | entry (key word : List Char)
  deriving Repr, DecidableEq

namespace Line

def chars : Line → List Char
  | blank => []
  | comment text => '#' :: text
  | entry key word => key ++ ':' :: ' ' :: word

def pair? : Line → Option (List Char × List Char)
  | entry key word => some (key, word)
  | _ => none

/-- The line is one of a flat document; its key is short enough to be one. -/
inductive Proper : Line → Prop
  | blank : Proper blank
  | comment {text : List Char} (htext : ∀ c ∈ text, isPrintable c = true) : Proper (comment text)
  | entry {key word : List Char} (hkey : key ≠ []) (hplain : ∀ c ∈ key, isPlain c = true)
      (hlength : key.length ≤ 1024) (hword : word ≠ []) (hplain' : ∀ c ∈ word, isPlain c = true) :
      Proper (entry key word)

end Line

/-- The characters of a document: some lines that are ended by a line feed and a last one that is not. A
document that ends with a line feed has an empty last line. -/
def text (lines : List Line) (last : Line) : List Char :=
  lines.flatMap (fun line => line.chars ++ ['\n']) ++ last.chars

def entries (lines : List Line) (last : Line) : List (List Char × List Char) :=
  (lines ++ [last]).filterMap Line.pair?

theorem text_cons (line : Line) (lines : List Line) (last : Line) :
    text (line :: lines) last = line.chars ++ '\n' :: text lines last := by
  simp [text]

theorem entries_nil (last : Line) : entries [] last = last.pair?.toList := by
  cases last <;> rfl

theorem entries_cons (line : Line) (lines : List Line) (last : Line) :
    entries (line :: lines) last = line.pair?.toList ++ entries lines last := by
  cases line <;> rfl

theorem mem_entries_iff {lines : List Line} {last : Line} {key word : List Char} :
    (key, word) ∈ entries lines last ↔ .entry key word ∈ lines ++ [last] := by
  rw [entries, List.mem_filterMap]
  constructor
  · rintro ⟨line, hline, hentry⟩
    cases line with
    | blank | comment => cases hentry
    | entry =>
        cases hentry
        exact hline
  · exact fun hline => ⟨_, hline, rfl⟩

theorem mem_text {lines : List Line} {last line : Line} (hline : line ∈ lines ++ [last]) {c : Char}
    (hc : c ∈ line.chars) : c ∈ text lines last := by
  rw [text, List.mem_append, List.mem_flatMap]
  rcases List.mem_append.mp hline with hline | hline
  · exact Or.inl ⟨line, hline, List.mem_append_left _ hc⟩
  · rw [← List.mem_singleton.mp hline]
    exact Or.inr hc

section Character

variable {c : Char}

theorem ne_of_isPlain (hc : isPlain c = true) {d : Char} (hd : isPlain d = false) : c ≠ d := by
  rintro rfl
  rw [hc] at hd
  cases hd

theorem isPlain_iff : isPlain c = true ↔
    ((c.isUpper = true ∨ c.isLower = true) ∨ c.isDigit = true) ∨ c = '_' := by
  show (((c.isUpper || c.isLower) || c.isDigit) || c == '_') = true ↔ _
  simp only [Bool.or_eq_true, beq_iff_eq]

theorem toNat_of_isPlain (hc : isPlain c = true) : 0x30 ≤ c.toNat ∧ c.toNat ≤ 0x7A := by
  rcases isPlain_iff.mp hc with ((hc | hc) | hc) | rfl
  · have hrange := toNat_of_isUpper hc
    omega
  · have hrange := toNat_of_isLower hc
    omega
  · have hrange := toNat_of_isDigit hc
    omega
  · decide

theorem isBreak_of_toNat (hlow : 0x20 ≤ c.toNat) (hhigh : c.toNat ≤ 0x7E) : isBreak c = false := by
  have hne : ∀ d : Char, d.toNat < 0x20 ∨ 0x7E < d.toNat → (c == d) = false := by
    intro d hd
    rw [beq_eq_false_iff_ne]
    rintro rfl
    omega
  rw [isBreak, hne '\n' (by decide), hne '\u2028' (by decide), hne '\u2029' (by decide)]
  rfl

theorem isBreak_of_isPlain (hc : isPlain c = true) : isBreak c = false := by
  have hrange := toNat_of_isPlain hc
  exact isBreak_of_toNat (by omega) (by omega)

theorem isBreak_of_isPrintable (hc : isPrintable c = true) : isBreak c = false := by
  simp only [isPrintable, Bool.and_eq_true, decide_eq_true_eq] at hc
  exact isBreak_of_toNat hc.1 hc.2

theorem isGap_of_isPlain (hc : isPlain c = true) : isGap c = false := by
  rw [isGap, beq_false_of_ne (ne_of_isPlain hc (by decide)),
    beq_false_of_ne (ne_of_isPlain hc (by decide))]
  rfl

theorem utf8Size_of_isPlain (hc : isPlain c = true) : c.utf8Size = 1 := by
  rw [Char.utf8Size_eq_one_iff, UInt32.le_iff_toNat_le]
  have hrange := toNat_of_isPlain hc
  exact Nat.le_trans hrange.2 (by decide)

end Character

/-! ## Which characters there are -/

def isSimple (c : Char) : Bool := c == '\n' || isPrintable c

theorem isSimple_of_isPlain {c : Char} (hc : isPlain c = true) : isSimple c = true := by
  have hrange := toNat_of_isPlain hc
  simp only [isSimple, isPrintable, Bool.or_eq_true, Bool.and_eq_true, decide_eq_true_eq]
  omega

theorem Line.Proper.isSimple {line : Line} (hline : line.Proper) :
    ∀ c ∈ line.chars, isSimple c = true := by
  cases hline with
  | blank => exact nofun
  | comment htext =>
      refine List.forall_mem_cons.mpr ⟨by decide, fun c hc => ?_⟩
      rw [Flat.isSimple, htext c hc, Bool.or_true]
  | entry _ hplain _ _ hplain' =>
      refine List.forall_mem_append.mpr ⟨fun c hc => isSimple_of_isPlain (hplain c hc), ?_⟩
      refine List.forall_mem_cons.mpr ⟨by decide, List.forall_mem_cons.mpr ⟨by decide, ?_⟩⟩
      exact fun c hc => isSimple_of_isPlain (hplain' c hc)

theorem isSimple_text {lines : List Line} {last : Line} (hlines : ∀ line ∈ lines, line.Proper)
    (hlast : last.Proper) : ∀ c ∈ text lines last, isSimple c = true := by
  induction lines with
  | nil => exact hlast.isSimple
  | cons line lines ih =>
      obtain ⟨hline, hlines⟩ := List.forall_mem_cons.mp hlines
      rw [text_cons]
      exact List.forall_mem_append.mpr
        ⟨hline.isSimple, List.forall_mem_cons.mpr ⟨by decide, ih hlines⟩⟩

theorem forbidden?_eq_none {cs : List Char} (hcs : ∀ c ∈ cs, isSimple c = true) :
    forbidden? cs = none := by
  rw [forbidden?, List.find?_eq_none]
  intro c hc
  have hsimple := hcs c hc
  simp only [isSimple, isPrintable, Bool.or_eq_true, Bool.and_eq_true, decide_eq_true_eq,
    beq_iff_eq] at hsimple
  rw [Bool.not_eq_true', Bool.not_eq_false]
  rcases hsimple with rfl | hrange
  · decide
  · simp only [isAllowed, Bool.or_eq_true, Bool.and_eq_true, decide_eq_true_eq]
    omega

theorem unifyBreaks_eq {cs : List Char} (hcs : ∀ c ∈ cs, isSimple c = true) : unifyBreaks cs = cs := by
  induction cs with
  | nil => rfl
  | cons c cs ih =>
      obtain ⟨hc, hcs⟩ := List.forall_mem_cons.mp hcs
      have hreturn : c ≠ '\r' := by
        rintro rfl
        exact absurd hc (by decide)
      have hnext : c ≠ '\u0085' := by
        rintro rfl
        exact absurd hc (by decide)
      rw [unifyBreaks, ih hcs]
      · exact fun _ h _ => hreturn h
      · exact hreturn
      · exact hnext

end DriverValidation.Yaml.Flat
