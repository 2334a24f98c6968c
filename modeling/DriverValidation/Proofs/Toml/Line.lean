import DriverValidation.Toml.Document

/-!
A document of one line, which puts a text behind a key. The key needs no quotes, and the text stands
between double quotes with nothing in it that they would have to hide.
-/

namespace DriverValidation.Toml

namespace Text

/-- A character that stands for itself between double quotes. -/
def isPlain (c : Char) : Bool := isContent c && c != '"' && c != '\\'

variable {cs done rest : List Char}

theorem isPlain_iff {c : Char} : isPlain c = true ↔ isContent c = true ∧ c ≠ '"' ∧ c ≠ '\\' := by
  rw [isPlain, Bool.and_eq_true, Bool.and_eq_true, bne_iff_ne, bne_iff_ne, and_assoc]

theorem step_of_plain {c : Char} (hc : isPlain c = true) :
    step ⟨true, false⟩ .text done c = .go .text (c :: done) := by
  obtain ⟨hcontent, hquote, hescape⟩ := isPlain_iff.mp hc
  have hnoQuote : ¬(c == Quoting.quote ⟨true, false⟩) = true := fun h => hquote (beq_iff_eq.mp h)
  have hnoEscape : ¬(c == '\\' && true) = true := by
    rw [Bool.and_true]
    exact fun h => hescape (beq_iff_eq.mp h)
  rw [step, textStep, if_neg hnoQuote, if_neg hnoEscape, if_neg (by simp), if_neg (by simp),
    if_pos hcontent]

/-- A text of plain characters is read up to its closing quote. -/
theorem readFrom_plain (hcs : ∀ c ∈ cs, isPlain c = true) :
    readFrom ⟨true, false⟩ .text done (cs ++ '"' :: rest) =
      .ok (String.ofList (done.reverse ++ cs), rest) := by
  induction cs generalizing done with
  | nil =>
      rw [List.append_nil]
      rfl
  | cons c cs ih =>
      obtain ⟨hc, hcs⟩ := List.forall_mem_cons.mp hcs
      rw [List.cons_append, readFrom, step_of_plain hc]
      dsimp only
      rw [ih hcs, List.reverse_cons, List.append_assoc, List.singleton_append]

theorem read?_plain (hcs : ∀ c ∈ cs, isPlain c = true) (hrest : ∀ c rest', rest = c :: rest' → c ≠ '"') :
    read? ('"' :: (cs ++ '"' :: rest)) = some (.ok (String.ofList cs, rest)) := by
  have hline : readLine true (cs ++ '"' :: rest) = .ok (String.ofList cs, rest) := readFrom_plain hcs
  rw [← hline]
  cases cs with
  | nil =>
      cases rest with
      | nil => rfl
      | cons c rest =>
          rw [List.nil_append, read?]
          intro rest' hrest'
          exact hrest c rest rfl (List.cons.inj (List.cons.inj hrest').2).1
  | cons c cs =>
      rw [List.cons_append, read?]
      intro rest' hrest'
      exact (isPlain_iff.mp (List.forall_mem_cons.mp hcs).1).2.1 (List.cons.inj hrest').1

end Text

namespace Document

section Key

variable {c : Char} {key rest : List Char} {p : Partial}

/-- What begins with a character of a bare key is neither white space nor a comment, a header, a quote or
the mark of a byte order. -/
theorem ne_of_isBare (hc : isBare c = true) :
    isGap c = false ∧ c ≠ '\n' ∧ c ≠ '\r' ∧ c ≠ '#' ∧ c ≠ '[' ∧ c ≠ '"' ∧ c ≠ '\'' ∧
      c ≠ '\uFEFF' := by
  have hne : ∀ c', isBare c' = false → c ≠ c' := by
    rintro c' hc' rfl
    rw [hc] at hc'
    cases hc'
  refine ⟨?_, hne _ (by decide), hne _ (by decide), hne _ (by decide), hne _ (by decide),
    hne _ (by decide), hne _ (by decide), hne _ (by decide)⟩
  rw [isGap, beq_eq_false_iff_ne.mpr (hne ' ' (by decide)),
    beq_eq_false_iff_ne.mpr (hne '\t' (by decide)), Bool.or_self]

theorem skipLines_bare (hc : isBare c = true) : skipLines false (c :: rest) = .ok (c :: rest) := by
  obtain ⟨hgap, hline, hreturn, hcomment, -⟩ := ne_of_isBare hc
  rw [skipLines.eq_def]
  dsimp only
  rw [if_neg (by simpa using hline), if_neg (by simpa using hreturn), if_neg Bool.false_ne_true,
    if_neg (by simp [hgap]), if_neg (by simpa using hcomment)]

/-- A bare key is read up to a character that can be in none, and the white space behind the key is
passed over. -/
theorem readKey_bare (hkey : ∀ c ∈ key, isBare c = true) (hnonempty : key ≠ [])
    (hend : isBare c = false) (hdot : ∀ rest', skipGap (c :: rest) ≠ '.' :: rest') :
    readKey (key ++ c :: rest) = .ok (⟨[], String.ofList key⟩, skipGap (c :: rest)) := by
  have hstop : ¬isBare c = true := Bool.eq_false_iff.mp hend
  have htake : (key ++ c :: rest).takeWhile isBare = key := by
    rw [List.takeWhile_append_of_pos hkey, List.takeWhile_cons_of_neg hstop, List.append_nil]
  have hdrop : (key ++ c :: rest).dropWhile isBare = c :: rest := by
    rw [List.dropWhile_append_of_pos hkey, List.dropWhile_cons_of_neg hstop]
  have hpart : readPart (key ++ c :: rest) = .ok (String.ofList key, c :: rest) := by
    cases key with
    | nil => exact absurd rfl hnonempty
    | cons k key =>
        obtain ⟨-, -, -, -, -, hquote, happostrophe, -⟩ :=
          ne_of_isBare (List.forall_mem_cons.mp hkey).1
        rw [List.cons_append] at htake hdrop ⊢
        rw [readPart]
        · rw [htake, hdrop]
          rfl
        · exact fun rest' hrest => hquote (List.cons.inj hrest).1
        · exact fun rest' hrest => happostrophe (List.cons.inj hrest).1
  have hgap : skipGap (key ++ c :: rest) = key ++ c :: rest := by
    cases key with
    | nil => exact absurd rfl hnonempty
    | cons k key =>
        have hk := (ne_of_isBare (List.forall_mem_cons.mp hkey).1).1
        rw [skipGap, List.cons_append, List.dropWhile_cons_of_neg (by simp [hk])]
  have hparts : readParts ((key ++ c :: rest).length + 1) (key ++ c :: rest) =
      .ok ([String.ofList key], skipGap (c :: rest)) := by
    rw [readParts, hgap, hpart]
    simp only [bind, Except.bind]
    rfl
  rw [readKey, hparts]
  rfl

theorem readKey_entry (hkey : ∀ c ∈ key, isBare c = true) (hnonempty : key ≠ []) :
    readKey (key ++ ' ' :: '=' :: rest) = .ok (⟨[], String.ofList key⟩, '=' :: rest) := by
  have hbehind : skipGap (' ' :: '=' :: rest) = '=' :: rest := by
    rw [skipGap, List.dropWhile_cons_of_pos (by decide), List.dropWhile_cons_of_neg (by decide)]
  rw [readKey_bare hkey hnonempty (by decide), hbehind]
  rw [hbehind]
  exact nofun

theorem readKey_header (hkey : ∀ c ∈ key, isBare c = true) (hnonempty : key ≠ []) :
    readKey (key ++ ']' :: rest) = .ok (⟨[], String.ofList key⟩, ']' :: rest) := by
  have hbehind : skipGap (']' :: rest) = ']' :: rest := by
    rw [skipGap, List.dropWhile_cons_of_neg (by decide)]
  rw [readKey_bare hkey hnonempty (by decide), hbehind]
  rw [hbehind]
  exact nofun

/-- A line that begins with a bare key is read as an entry. -/
theorem readFrom_entry {p' : Partial} {rest' : List Char} {fuel : Nat} (hc : isBare c = true)
    (hread : readEntry p (c :: rest) = .ok (p', rest')) :
    readFrom p (fuel + 1) (c :: rest) = readFrom p' fuel rest' := by
  obtain ⟨-, -, -, -, hheader, -, -, -⟩ := ne_of_isBare hc
  rw [readFrom, skipLines_bare hc]
  simp only [bind, Except.bind]
  split
  · contradiction
  · rename_i hcs
    exact absurd (List.cons.inj hcs).1 hheader
  · rename_i hcs
    exact absurd (List.cons.inj hcs).1 hheader
  · rw [hread]

end Key

def line (key value : List Char) : List Char :=
  key ++ ' ' :: '=' :: ' ' :: '"' :: (value ++ '"' :: ['\n'])

/-- The characters of a line that opens a table. -/
def header (key : List Char) : List Char := '[' :: (key ++ ']' :: ['\n'])

section Line

variable {key value : List Char} (hkey : ∀ c ∈ key, isBare c = true) (hnonempty : key ≠ [])

include hkey hnonempty

/-- A document of one header has an empty table behind its key. -/
theorem read_header :
    read (String.ofList (header key)) = .ok [(String.ofList key, .table [])] := by
  have hheader : readHeader ⟨⟨false, false, []⟩, []⟩ false (key ++ ']' :: ['\n']) =
      .ok (⟨⟨false, false, [(String.ofList key, .table false false [])]⟩, [String.ofList key]⟩, []) := by
    rw [readHeader, readKey_header hkey hnonempty]
    rfl
  have hskip : ∀ rest, skipLines false ('[' :: rest) = .ok ('[' :: rest) := by
    intro rest
    rw [skipLines.eq_def]
    rfl
  have hfrom : ∀ fuel, readFrom ⟨⟨false, false, []⟩, []⟩ (fuel + 1) (header key) =
      readFrom ⟨⟨false, false, [(String.ofList key, .table false false [])]⟩, [String.ofList key]⟩ fuel
        [] := by
    intro fuel
    rw [header, readFrom, hskip]
    cases key with
    | nil => exact absurd rfl hnonempty
    | cons c key =>
        obtain ⟨-, -, -, -, hbracket, -, -, -⟩ := ne_of_isBare (List.forall_mem_cons.mp hkey).1
        simp only [bind, Except.bind]
        split
        · contradiction
        · rename_i rest hcs
          exact absurd (List.cons.inj (List.cons.inj hcs).2).1 hbracket
        · rename_i rest _ hcs
          rw [← (List.cons.inj hcs).2, hheader]
        · rename_i hnone
          exact absurd rfl (hnone _)
  rw [read, String.toList_ofList]
  exact congrArg (Except.map _) ((hfrom _).trans rfl)

variable (hvalue : ∀ c ∈ value, Text.isPlain c = true)

include hvalue

theorem readEntry_line : readEntry ⟨⟨false, false, []⟩, []⟩ (line key value) =
    .ok (⟨⟨false, false, [(String.ofList key, .value (.text (String.ofList value)))]⟩, []⟩, []) := by
  have htext : Text.read? ('"' :: (value ++ '"' :: ['\n'])) =
      some (.ok (String.ofList value, ['\n'])) := by
    refine Text.read?_plain hvalue ?_
    rintro c rest' hrest rfl
    cases hrest
  have hvalue : ∀ fuel, readValue 0 (fuel + 1) ('"' :: (value ++ '"' :: ['\n'])) =
      .ok (.text (String.ofList value), ['\n']) := by
    intro fuel
    rw [readValue.eq_def]
    dsimp only
    rw [htext]
    rfl
  have hgap : skipGap (' ' :: '"' :: (value ++ '"' :: ['\n'])) = '"' :: (value ++ '"' :: ['\n']) := by
    rw [skipGap, List.dropWhile_cons_of_pos (by decide), List.dropWhile_cons_of_neg (by decide)]
  rw [readEntry, line, readKey_entry hkey hnonempty]
  simp only [bind, Except.bind, hgap, Nat.mul_add, hvalue]
  rfl

theorem read_line : read (String.ofList (line key value)) =
    .ok [(String.ofList key, .text (String.ofList value))] := by
  have hentry := readEntry_line hkey hnonempty hvalue
  cases key with
  | nil => exact absurd rfl hnonempty
  | cons c key =>
      have hc := (List.forall_mem_cons.mp hkey).1
      obtain ⟨-, -, -, -, -, -, -, hmark⟩ := ne_of_isBare hc
      rw [read, String.toList_ofList]
      rw [line, List.cons_append] at hentry ⊢
      have horder : ∀ rest, withoutOrderMark (c :: rest) = c :: rest := by
        intro rest
        rw [withoutOrderMark]
        exact fun _ hrest => hmark (List.cons.inj hrest).1
      rw [horder, readFrom_entry hc hentry, List.length_cons]
      rfl

end Line

def entryLine (key value : String) : String := key ++ " = \"" ++ value ++ "\"\n"

theorem entryLine_eq (key value : String) :
    entryLine key value = String.ofList (line key.toList value.toList) := by
  refine String.toList_injective ?_
  have hfront : " = \"".toList = [' ', '=', ' ', '"'] := by decide
  have hend : "\"\n".toList = ['"', '\n'] := by decide
  rw [entryLine, String.toList_ofList, String.toList_append, String.toList_append,
    String.toList_append, hfront, hend, List.append_assoc, List.append_assoc, line]
  simp only [List.cons_append, List.nil_append]

/-- A document of one such line has the text behind the key, and nothing else. -/
theorem read_entryLine {key value : String} (hkey : key.toList.all isBare = true)
    (hnonempty : key.toList ≠ []) (hvalue : value.toList.all Text.isPlain = true) :
    read (entryLine key value) = .ok [(key, .text value)] := by
  rw [entryLine_eq, read_line (List.all_eq_true.mp hkey) hnonempty (List.all_eq_true.mp hvalue),
    String.ofList_toList, String.ofList_toList]

def headerLine (key : String) : String := "[" ++ key ++ "]\n"

/-- A document of one such line has an empty table behind the key, and nothing else. -/
theorem read_headerLine {key : String} (hkey : key.toList.all isBare = true)
    (hnonempty : key.toList ≠ []) : read (headerLine key) = .ok [(key, .table [])] := by
  have hline : headerLine key = String.ofList (header key.toList) := by
    refine String.toList_injective ?_
    rw [headerLine, String.toList_ofList, String.toList_append, String.toList_append, header,
      List.append_assoc]
    rfl
  rw [hline, read_header (List.all_eq_true.mp hkey) hnonempty, String.ofList_toList]

end Document

end DriverValidation.Toml
