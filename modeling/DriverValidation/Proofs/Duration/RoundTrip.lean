import DriverValidation.Duration.Printer
import DriverValidation.Duration.Reader
import DriverValidation.Proofs.Text.Ascii

/-!
The written form of a span of time reads as that span, and as no other. The form is a list of parts,
each a count of a unit, of which those with count zero are left out. Reading adds up the parts from the
left, and no sum on the way is larger than the span itself, so none overflows.
-/

namespace DriverValidation.Duration

/-! ## Reading one count of a unit -/

section Reading

variable {d : Duration} {n : Nat} {digits name rest : List Char}

theorem le_ofDigitChars (digits : List Char) (n : Nat) : n ≤ Nat.ofDigitChars 10 digits n := by
  induction digits generalizing n with
  | nil => exact Nat.le_refl n
  | cons c digits ih =>
      have hrest := ih (10 * n + (c.toNat - '0'.toNat))
      rw [Nat.ofDigitChars_cons]
      omega

/-- The digits of a number of 64 bits are read one by one; what was read of them is no larger. -/
theorem readFrom_digits (hdigits : ∀ c ∈ digits, c.isDigit = true)
    (hword : Nat.ofDigitChars 10 digits n < 0x10000000000000000) :
    readFrom d (.number n) (digits ++ rest) =
      readFrom d (.number (Nat.ofDigitChars 10 digits n)) rest := by
  induction digits generalizing n with
  | nil => rfl
  | cons c digits ih =>
      obtain ⟨hc, hdigits⟩ := List.forall_mem_cons.mp hdigits
      rw [Nat.ofDigitChars_cons] at hword ⊢
      have hnext : n * 10 + digitValue c = 10 * n + (c.toNat - '0'.toNat) := by
        rw [digitValue, Nat.mul_comm]
      have hless : n * 10 + digitValue c < 0x10000000000000000 := by
        have hle := le_ofDigitChars digits (10 * n + (c.toNat - '0'.toNat))
        omega
      rw [List.cons_append, readFrom, if_pos hc, word, if_pos hless, hnext]
      exact ih hdigits hword

theorem readFrom_toDigits (isFirst : Bool) (hn : n < 0x10000000000000000) :
    readFrom d (.start isFirst) (Nat.toDigits 10 n ++ rest) = readFrom d (.number n) rest := by
  have hdigits : ∀ c ∈ Nat.toDigits 10 n, c.isDigit = true :=
    fun c => Nat.isDigit_of_mem_toDigits (by decide) (by decide)
  have hvalue : Nat.ofDigitChars 10 (Nat.toDigits 10 n) 0 = n := Nat.ofDigitChars_ten_toDigits
  cases hcs : Nat.toDigits 10 n with
  | nil => exact absurd hcs Nat.toDigits_ne_nil
  | cons c digits =>
      rw [hcs] at hdigits hvalue
      obtain ⟨hc, hdigits⟩ := List.forall_mem_cons.mp hdigits
      rw [Nat.ofDigitChars_cons, Nat.mul_zero, Nat.zero_add] at hvalue
      rw [List.cons_append, readFrom, if_pos hc, digitValue,
        readFrom_digits hdigits (by rwa [hvalue]), hvalue]

theorem toNat_of_isLetter {c : Char} (hc : isLetter c = true) :
    (0x41 ≤ c.toNat ∧ c.toNat ≤ 0x5A) ∨ (0x61 ≤ c.toNat ∧ c.toNat ≤ 0x7A) ∨ c.toNat = 0xB5 := by
  have halpha : c.isAlpha = (c.isUpper || c.isLower) := rfl
  rw [isLetter, halpha, Bool.or_eq_true, Bool.or_eq_true, beq_iff_eq] at hc
  rcases hc with (hupper | hlower) | rfl
  · exact Or.inl (Text.toNat_of_isUpper hupper)
  · exact Or.inr (Or.inl (Text.toNat_of_isLower hlower))
  · exact Or.inr (Or.inr rfl)

/-- A letter of a unit is neither a digit nor a blank. -/
theorem not_isDigit_of_isLetter {c : Char} (hc : isLetter c = true) :
    ¬c.isDigit = true ∧ ¬Text.isBlank c = true := by
  have hrange := toNat_of_isLetter hc
  constructor
  · intro hdigit
    have hdigits := Text.toNat_of_isDigit hdigit
    omega
  · intro hblank
    simp only [Text.isBlank, Bool.or_eq_true, Bool.and_eq_true, decide_eq_true_eq,
      beq_iff_eq] at hblank
    omega

theorem readFrom_letters {f : Option Fraction} (done : List Char)
    (hname : ∀ c ∈ name, isLetter c = true) :
    readFrom d (.unit n f done) (name ++ rest) = readFrom d (.unit n f (name.reverse ++ done)) rest := by
  induction name generalizing done with
  | nil => rfl
  | cons c name ih =>
      obtain ⟨hc, hname⟩ := List.forall_mem_cons.mp hname
      obtain ⟨hdigit, hblank⟩ := not_isDigit_of_isLetter hc
      rw [List.cons_append, readFrom, if_neg hdigit, if_neg hblank, if_pos hc, ih (c :: done) hname,
        List.reverse_cons, List.append_assoc]
      rfl

theorem readFrom_name (hnonempty : name ≠ []) (hname : ∀ c ∈ name, isLetter c = true) :
    readFrom d (.number n) (name ++ rest) = readFrom d (.unit n none name.reverse) rest := by
  cases name with
  | nil => exact absurd rfl hnonempty
  | cons c name =>
      obtain ⟨hc, hname⟩ := List.forall_mem_cons.mp hname
      obtain ⟨hdigit, hblank⟩ := not_isDigit_of_isLetter hc
      rw [List.cons_append, readFrom, if_neg hdigit, if_neg hblank, if_pos hc,
        readFrom_letters [c] hname, List.reverse_cons]

end Reading

/-! ## Parts of a span -/

/-- The name with which one unit is written, or some number of them. -/
def Unit.written (single : Bool) : Unit → String
  | year => if single then "year" else "years"
  | month => if single then "month" else "months"
  | day => if single then "day" else "days"
  | week => "w"
  | hour => "h"
  | minute => "m"
  | second => "s"
  | millisecond => "ms"
  | microsecond => "us"
  | nanosecond => "ns"

theorem Unit.isLetter_written (single : Bool) (unit : Unit) :
    (unit.written single).toList ≠ [] ∧ ∀ c ∈ (unit.written single).toList, isLetter c = true := by
  rw [← List.all_eq_true]
  cases unit <;> cases single <;> decide

theorem Unit.ofName?_written (single : Bool) (unit : Unit) :
    ofName? (unit.written single) = some unit := by
  cases unit <;> cases single <;> decide

/-- A count of a unit. -/
structure Part where
  count : Nat
  unit : Unit

namespace Part

def name (p : Part) : String := p.unit.written (p.count == 1)

def text (p : Part) : String := toString p.count ++ p.name

/-- What a part adds to the seconds or to the nanoseconds, `size` being that of one unit. -/
def amount (size : Unit → Nat) (p : Part) : Nat := p.count * size p.unit

/-- A span with a part added, as the part is read. -/
def addTo (d : Duration) (p : Part) : Except Fault Duration := d.addUnits p.count none p.name.toList

theorem addTo_eq {d : Duration} {p : Part}
    (hseconds : d.seconds + p.amount Unit.seconds < 0x10000000000000000)
    (hnanos : d.nanos + p.amount Unit.nanos < 1000000000) :
    p.addTo d = .ok ⟨d.seconds + p.amount Unit.seconds, d.nanos + p.amount Unit.nanos, hseconds,
      hnanos⟩ := by
  have hfirst : word (p.count * p.unit.seconds) = .ok (p.amount Unit.seconds) :=
    if_pos (by rw [amount] at hseconds; omega)
  have hsecond : word (p.count * p.unit.nanos) = .ok (p.amount Unit.nanos) :=
    if_pos (by rw [amount] at hnanos; omega)
  have hsum : word (d.nanos + p.amount Unit.nanos) = .ok (d.nanos + p.amount Unit.nanos) :=
    if_pos (by omega)
  have hcarry : (d.nanos + p.amount Unit.nanos) / 1000000000 = 0 := Nat.div_eq_of_lt hnanos
  have hrest : (d.nanos + p.amount Unit.nanos) % 1000000000 = d.nanos + p.amount Unit.nanos :=
    Nat.mod_eq_of_lt hnanos
  have hparts : ofParts? (d.seconds + p.amount Unit.seconds) (d.nanos + p.amount Unit.nanos) =
      some ⟨d.seconds + p.amount Unit.seconds, d.nanos + p.amount Unit.nanos, hseconds, hnanos⟩ :=
    dif_pos ⟨hseconds, hnanos⟩
  rw [addTo, addUnits, String.ofList_toList, name, Unit.ofName?_written]
  simp only [hfirst, hsecond, add, bind, Except.bind, pure, Except.pure, hsum, hcarry, hrest,
    Nat.add_zero, hparts]

/-- The whole units of an amount, and what is left. -/
theorem amount_add_mod {size : Unit → Nat} (n : Nat) (unit : Unit) (k : Nat) (hsize : size unit = k) :
    (Part.mk (n / k) unit).amount size + n % k = n := by
  subst hsize
  exact Nat.div_add_mod' n (size unit)

theorem amount_eq_zero {size : Unit → Nat} (count : Nat) {unit : Unit} (hsize : size unit = 0) :
    (Part.mk count unit).amount size = 0 := by
  rw [amount, hsize, Nat.mul_zero]

/-- What parts amount to together. -/
def total (size : Unit → Nat) : List Part → Nat
  | [] => 0
  | p :: parts => p.amount size + total size parts

end Part

/-- Parts add up from the left to the sum of all, if that is in range. -/
theorem foldlM_addTo {parts : List Part} {d : Duration}
    (hseconds : d.seconds + Part.total Unit.seconds parts < 0x10000000000000000)
    (hnanos : d.nanos + Part.total Unit.nanos parts < 1000000000) :
    parts.foldlM Part.addTo d = .ok ⟨d.seconds + Part.total Unit.seconds parts,
      d.nanos + Part.total Unit.nanos parts, hseconds, hnanos⟩ := by
  induction parts generalizing d with
  | nil => rfl
  | cons p parts ih =>
      simp only [Part.total] at hseconds hnanos ⊢
      rw [List.foldlM_cons, Part.addTo_eq (by omega) (by omega)]
      refine (ih (d := ⟨d.seconds + p.amount Unit.seconds, d.nanos + p.amount Unit.nanos, by omega,
        by omega⟩) (by dsimp only; omega) (by dsimp only; omega)).trans ?_
      simp only [Nat.add_assoc]

/-- Parts that are written with blanks between them are read one after the other. -/
theorem readFrom_parts {parts : List Part} (isFirst : Bool) (d : Duration) (hparts : parts ≠ [])
    (hcounts : ∀ p ∈ parts, p.count < 0x10000000000000000) :
    readFrom d (.start isFirst) (String.intercalate " " (parts.map Part.text)).toList =
      parts.foldlM Part.addTo d := by
  induction parts generalizing isFirst d with
  | nil => exact absurd rfl hparts
  | cons p parts ih =>
      obtain ⟨hcount, hcounts⟩ := List.forall_mem_cons.mp hcounts
      obtain ⟨hname, hletters⟩ := Unit.isLetter_written (p.count == 1) p.unit
      have hread : ∀ rest, readFrom d (.start isFirst) (p.text.toList ++ rest) =
          readFrom d (.unit p.count none p.name.toList.reverse) rest := by
        intro rest
        rw [Part.text, Nat.toString_eq_repr, String.toList_append, Nat.toList_repr,
          List.append_assoc, readFrom_toDigits isFirst hcount, Part.name, readFrom_name hname hletters]
      cases parts with
      | nil =>
          rw [List.map_singleton, String.intercalate_singleton, ← List.append_nil p.text.toList,
            hread, readFrom, List.reverse_reverse]
          simp [Part.addTo]
      | cons q parts =>
          have hrest := fun d => ih false d (List.cons_ne_nil q parts) hcounts
          rw [List.map_cons, String.intercalate_cons_of_ne_nil (by simp), String.toList_append,
            String.toList_append, List.append_assoc, hread]
          show readFrom d (.unit p.count none p.name.toList.reverse) (' ' :: _) = _
          rw [readFrom, if_neg (by decide), if_pos (by decide), List.reverse_reverse,
            List.foldlM_cons, Part.addTo]
          exact congrArg _ (funext hrest)

/-! ## The written form -/

/-- The parts of a span, largest unit first. -/
def parts (d : Duration) : List Part :=
  let ofYear := d.seconds % 31557600
  let ofMonth := ofYear % 2630016
  let ofDay := ofMonth % 86400
  [⟨d.seconds / 31557600, .year⟩, ⟨ofYear / 2630016, .month⟩, ⟨ofMonth / 86400, .day⟩,
    ⟨ofDay / 3600, .hour⟩, ⟨ofDay % 3600 / 60, .minute⟩, ⟨ofDay % 60, .second⟩,
    ⟨d.nanos / 1000000, .millisecond⟩, ⟨d.nanos / 1000 % 1000, .microsecond⟩,
    ⟨d.nanos % 1000, .nanosecond⟩]

def writtenParts (d : Duration) : List Part := d.parts.filter (·.count != 0)

def Part.items (p : Part) : List String := ([p].filter (·.count != 0)).map Part.text

theorem Part.items_of_eq_zero {p : Part} (hzero : p.count = 0) : p.items = [] := by
  rw [items, List.filter_cons_of_neg (by simp [hzero])]
  rfl

theorem Part.items_of_ne_zero {p : Part} (hzero : p.count ≠ 0) : p.items = [p.text] := by
  rw [items, List.filter_cons_of_pos (by simp [hzero])]
  rfl

theorem longItem_eq (p : Part) {name : String} (hone : p.unit.written true = name)
    (hmany : p.unit.written false = name ++ "s") : longItem p.count name = p.items := by
  rw [longItem]
  by_cases hzero : p.count = 0
  · rw [if_pos (by simp [hzero]), Part.items_of_eq_zero hzero]
  · rw [if_neg (by simp [hzero]), Part.items_of_ne_zero hzero, Part.text, Part.name]
    by_cases hsingle : p.count = 1
    · rw [if_pos (by simp [hsingle]), beq_iff_eq.mpr hsingle, hone]
      rfl
    · rw [if_neg (by simp [hsingle]), beq_eq_false_iff_ne.mpr hsingle, hmany, ← String.append_assoc]
      rfl

theorem shortItem_eq (p : Part) {name : String} (hname : ∀ single, p.unit.written single = name) :
    shortItem p.count name = p.items := by
  rw [shortItem]
  by_cases hzero : p.count = 0
  · rw [if_pos (by simp [hzero]), Part.items_of_eq_zero hzero]
  · rw [if_neg (by simp [hzero]), Part.items_of_ne_zero hzero, Part.text, Part.name, hname]
    rfl

theorem items_eq (d : Duration) : d.items = d.writtenParts.map Part.text := by
  have hwritten : d.writtenParts.map Part.text = d.parts.flatMap Part.items := by
    rw [writtenParts]
    induction d.parts with
    | nil => rfl
    | cons p parts ih =>
        rw [List.flatMap_cons, ← ih, Part.items, ← List.map_append, ← List.filter_append,
          List.singleton_append]
  rw [hwritten, items, parts]
  simp only [List.flatMap_cons, List.flatMap_nil, List.append_nil]
  rw [← longItem_eq ⟨_, .year⟩ rfl rfl, ← longItem_eq ⟨_, .month⟩ rfl rfl,
    ← longItem_eq ⟨_, .day⟩ rfl rfl, ← shortItem_eq ⟨_, .hour⟩ fun _ => rfl,
    ← shortItem_eq ⟨_, .minute⟩ fun _ => rfl, ← shortItem_eq ⟨_, .second⟩ fun _ => rfl,
    ← shortItem_eq ⟨_, .millisecond⟩ fun _ => rfl, ← shortItem_eq ⟨_, .microsecond⟩ fun _ => rfl,
    ← shortItem_eq ⟨_, .nanosecond⟩ fun _ => rfl]
  simp only [List.append_assoc]
  rfl

/-- A part with count zero adds nothing. -/
theorem total_filter (size : Unit → Nat) (parts : List Part) :
    Part.total size (parts.filter (·.count != 0)) = Part.total size parts := by
  induction parts with
  | nil => rfl
  | cons p parts ih =>
      by_cases hzero : p.count = 0
      · have hnone : p.amount size = 0 := by rw [Part.amount, hzero, Nat.zero_mul]
        rw [List.filter_cons_of_neg (by simp [hzero]), ih, Part.total, hnone, Nat.zero_add]
      · rw [List.filter_cons_of_pos (by simp [hzero]), Part.total, Part.total, ih]

theorem total_seconds (d : Duration) :
    Part.total Unit.seconds d.writtenParts = d.seconds := by
  have hsecond (n : Nat) : (Part.mk n .second).amount Unit.seconds = n := Nat.mul_one n
  have hminute {n : Nat} : (Part.mk (n % 3600 / 60) .minute).amount Unit.seconds + n % 60 = n % 3600 := by
    rw [← Nat.mod_mod_of_dvd n (show 60 ∣ 3600 by decide)]
    exact Part.amount_add_mod _ .minute 60 rfl
  have hzero {n : Nat} (unit : Unit) (hunit : unit.seconds = 0) :
      (Part.mk n unit).amount Unit.seconds = 0 := Part.amount_eq_zero n hunit
  rw [writtenParts, total_filter, parts]
  iterate 10 rw [Part.total]
  rw [hzero .millisecond rfl, hzero .microsecond rfl, hzero .nanosecond rfl, Nat.add_zero,
    hsecond, hminute, Part.amount_add_mod _ .hour 3600 rfl,
    Part.amount_add_mod _ .day 86400 rfl, Part.amount_add_mod _ .month 2630016 rfl,
    Part.amount_add_mod _ .year 31557600 rfl]

theorem total_nanos (d : Duration) : Part.total Unit.nanos d.writtenParts = d.nanos := by
  have hnano (n : Nat) : (Part.mk n .nanosecond).amount Unit.nanos = n := Nat.mul_one n
  have hmicro {n : Nat} : (Part.mk (n / 1000 % 1000) .microsecond).amount Unit.nanos + n % 1000 =
      n % 1000000 := by
    rw [← Nat.mod_mod_of_dvd n (show 1000 ∣ 1000000 by decide),
      ← Nat.mod_mul_right_div_self n 1000 1000]
    exact Part.amount_add_mod _ .microsecond 1000 rfl
  rw [writtenParts, total_filter, parts]
  iterate 10 rw [Part.total]
  iterate 6 rw [Part.amount_eq_zero _ rfl, Nat.zero_add]
  rw [hnano, Nat.add_zero, hmicro, Part.amount_add_mod _ .millisecond 1000000 rfl]

theorem count_lt (d : Duration) : ∀ p ∈ d.writtenParts, p.count < 0x10000000000000000 := by
  have hseconds := d.seconds_lt
  have hnanos := d.nanos_lt
  have hall : ∀ p ∈ d.parts, p.count < 0x10000000000000000 := by
    simp only [parts, List.forall_mem_cons, List.not_mem_nil, false_implies, implies_true, and_true]
    omega
  exact fun p hp => hall p (List.mem_filter.mp hp).1

theorem ofText_of_readFrom {s : String} {d : Duration}
    (hread : readFrom zero (.start true) s.toList = .ok d) : ofText s = .ok d := by
  rw [ofText]
  by_cases hzero : s = "0"
  · -- a lone zero is read by a rule of its own, and would else lack a unit
    subst hzero
    cases hread
  · rw [if_neg (by simpa using hzero)]
    exact hread

/-- The written form of a span reads as the span. -/
theorem ofText_toText (d : Duration) : ofText d.toText = .ok d := by
  by_cases hzero : d.seconds = 0 ∧ d.nanos = 0
  · obtain ⟨seconds, nanos, hseconds, hnanos⟩ := d
    obtain ⟨rfl, rfl⟩ := hzero
    show ofText zero.toText = .ok zero
    rfl
  · have hwritten : d.toText = String.intercalate " " (d.writtenParts.map Part.text) := by
      rw [toText, if_neg (by simpa using hzero), items_eq]
    have hparts : d.writtenParts ≠ [] := by
      intro hnil
      have hseconds := d.total_seconds
      have hnanos := d.total_nanos
      rw [hnil] at hseconds hnanos
      exact hzero ⟨hseconds.symm, hnanos.symm⟩
    refine ofText_of_readFrom ?_
    rw [hwritten, readFrom_parts true zero hparts d.count_lt]
    have hseconds : zero.seconds + Part.total Unit.seconds d.writtenParts = d.seconds := by
      rw [total_seconds]
      exact Nat.zero_add _
    have hnanos : zero.nanos + Part.total Unit.nanos d.writtenParts = d.nanos := by
      rw [total_nanos]
      exact Nat.zero_add _
    rw [foldlM_addTo (hseconds ▸ d.seconds_lt) (hnanos ▸ d.nanos_lt)]
    simp only [hseconds, hnanos]

/-! ## The characters of the written form -/

/-- A character of the written form. -/
def IsWritten (c : Char) : Prop := c.isDigit = true ∨ isLetter c = true ∨ c = ' '

theorem Part.isWritten_of_mem {p : Part} {c : Char} (hc : c ∈ p.text.toList) : IsWritten c := by
  rw [text, String.toList_append, List.mem_append, Nat.toString_eq_repr, Nat.toList_repr] at hc
  rcases hc with hdigit | hname
  · exact Or.inl (Nat.isDigit_of_mem_toDigits (by decide) (by decide) hdigit)
  · exact Or.inr (Or.inl ((Unit.isLetter_written (p.count == 1) p.unit).2 c hname))

theorem isWritten_of_mem_intercalate (parts : List Part) {c : Char}
    (hc : c ∈ (String.intercalate " " (parts.map Part.text)).toList) : IsWritten c := by
  induction parts with
  | nil => cases hc
  | cons p parts ih =>
      cases parts with
      | nil =>
          rw [List.map_singleton, String.intercalate_singleton] at hc
          exact p.isWritten_of_mem hc
      | cons q parts =>
          rw [List.map_cons, String.intercalate_cons_of_ne_nil (by simp), String.toList_append,
            String.toList_append, List.mem_append, List.mem_append] at hc
          rcases hc with (hc | hc) | hc
          · exact p.isWritten_of_mem hc
          · exact Or.inr (Or.inr (List.mem_singleton.mp hc))
          · exact ih hc

theorem isWritten_of_mem_toText (d : Duration) {c : Char} (hc : c ∈ d.toText.toList) :
    IsWritten c := by
  rw [toText] at hc
  by_cases hzero : (d.seconds == 0 && d.nanos == 0) = true
  · rw [if_pos hzero] at hc
    have hzeros : c = '0' ∨ c = 's' := by simpa using hc
    rcases hzeros with rfl | rfl
    · exact Or.inl rfl
    · exact Or.inr (Or.inl rfl)
  · rw [if_neg hzero, items_eq] at hc
    exact isWritten_of_mem_intercalate d.writtenParts hc

theorem toText_injective {d d' : Duration} (htext : d.toText = d'.toText) : d = d' := by
  have hread := d.ofText_toText
  rw [htext, ofText_toText] at hread
  exact (Except.ok.inj hread).symm

end DriverValidation.Duration
