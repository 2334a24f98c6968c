import DriverValidation.Proofs.Yaml.Flat.Text

/-!
The tokens of a flat document. An entry takes three tokens of its own: its key, which the colon behind it
makes one, the colon, and its word. Between the entries the lexer is in a state that depends on them alone
but for its place; comments and empty lines change nothing but the place. So the tokens are those of the
entries, line by line, in a block that the first entry opens and the end of the text closes.
-/

namespace DriverValidation.Yaml

/-- The place after some characters. -/
def Mark.past (m : Mark) (cs : List Char) : Mark := cs.foldl Mark.after m

namespace Flat

section Marks

theorem after_of_isBreak {m : Mark} {c : Char} (hc : isBreak c = true) : (m.after c).column = 0 := by
  rw [Mark.after, if_pos hc]

theorem past_of_isPlain {m : Mark} {cs : List Char} (hcs : ∀ c ∈ cs, isPlain c = true) :
    m.past cs = ⟨m.index + cs.length, m.line, m.column + cs.length⟩ := by
  induction cs generalizing m with
  | nil => rfl
  | cons c cs ih =>
      obtain ⟨hc, hcs⟩ := List.forall_mem_cons.mp hcs
      have hafter : m.after c = ⟨m.index + 1, m.line, m.column + 1⟩ := by
        rw [Mark.after, if_neg (by rw [isBreak_of_isPlain hc]; exact Bool.false_ne_true),
          utf8Size_of_isPlain hc]
      rw [Mark.past, List.foldl_cons, ← Mark.past, ih hcs, hafter, List.length_cons]
      simp only [Nat.add_assoc, Nat.add_comm 1]

end Marks

/-! ## Words -/

section Words

variable {indent : Int} {mark : Mark} {done : List Char}

theorem readFrom_cons {c : Char} (hc : isPlain c = true) (rest : List Char) :
    Plain.readFrom false indent ⟨done, .none⟩ mark (c :: rest) =
      Plain.readFrom false indent ⟨c :: done, .none⟩ (mark.after c) rest := by
  rw [Plain.readFrom, isBreak_of_isPlain hc, isGap_of_isPlain hc]
  have hword : Plain.endsWord false (c :: rest) = false := by
    rw [Plain.endsWord, beq_false_of_ne (ne_of_isPlain hc (by decide))]
    rfl
  have hcolon : Plain.colonBeforeIndicator false (c :: rest) = false := by
    rw [Plain.colonBeforeIndicator.eq_def]
    split <;> rfl
  rw [hword, hcolon]
  rfl

/-- The characters of a word are read one by one. -/
theorem readFrom_word {word : List Char} (hword : ∀ c ∈ word, isPlain c = true) (rest : List Char) :
    Plain.readFrom false indent ⟨done, .none⟩ mark (word ++ rest) =
      Plain.readFrom false indent ⟨word.reverse ++ done, .none⟩ (mark.past word) rest := by
  induction word generalizing done mark with
  | nil => rfl
  | cons c word ih =>
      obtain ⟨hc, hword⟩ := List.forall_mem_cons.mp hword
      rw [List.cons_append, readFrom_cons hc, ih hword, List.reverse_cons, List.append_assoc]
      rfl

/-- A key goes as far as its colon. -/
theorem read_key {key : List Char} (hkey : ∀ c ∈ key, isPlain c = true) (rest : List Char) :
    Plain.read false indent ⟨mark, key ++ ':' :: ' ' :: rest⟩ =
      .ok (key, false, ⟨mark.past key, ':' :: ' ' :: rest⟩) := by
  rw [Plain.read, Plain.Partial.empty, readFrom_word hkey]
  simp [Plain.readFrom, isBreak, isGap, Gap.isOpen, Gap.none, Plain.colonBeforeIndicator,
    Plain.endsWord, atSeparator, isSeparator, bind, Except.bind, pure, Except.pure]

end Words

/-! ## Between the entries -/

section Space

variable {inFlow keyAllowed : Bool} {mark : Mark}

theorem skipSpaceFrom_isPlain {c : Char} (hc : isPlain c = true) (rest : List Char) :
    Lexer.skipSpaceFrom inFlow keyAllowed false mark (c :: rest) = (keyAllowed, ⟨mark, c :: rest⟩) := by
  rw [Lexer.skipSpaceFrom, isBreak_of_isPlain hc, beq_false_of_ne (ne_of_isPlain hc (by decide)),
    beq_false_of_ne (ne_of_isPlain hc (by decide)), beq_false_of_ne (ne_of_isPlain hc (by decide)),
    beq_false_of_ne (ne_of_isPlain hc (by decide))]
  rfl

theorem skipSpaceFrom_break (inComment : Bool) (rest : List Char) :
    Lexer.skipSpaceFrom false keyAllowed inComment mark ('\n' :: rest) =
      Lexer.skipSpaceFrom false true false (mark.after '\n') rest := by
  rw [Lexer.skipSpaceFrom, if_pos (by decide), Bool.not_false, Bool.or_true]

theorem skipSpaceFrom_comment {text : List Char} (htext : ∀ c ∈ text, isPrintable c = true)
    (rest : List Char) : Lexer.skipSpaceFrom false keyAllowed true mark (text ++ rest) =
      Lexer.skipSpaceFrom false keyAllowed true (mark.past text) rest := by
  induction text generalizing mark with
  | nil => rfl
  | cons c text ih =>
      obtain ⟨hc, htext⟩ := List.forall_mem_cons.mp htext
      rw [List.cons_append, Lexer.skipSpaceFrom, isBreak_of_isPrintable hc, Bool.true_or]
      exact ih htext

end Space

/-- A line that is not empty starts with a character that is no separator. -/
theorem Line.Proper.head {line : Line} (hline : line.Proper) : line = .blank ∨
    ∃ c rest, line.chars = c :: rest ∧ isBreak c = false ∧ isGap c = false := by
  cases hline with
  | blank => exact Or.inl rfl
  | comment => exact Or.inr ⟨'#', _, rfl, by decide, by decide⟩
  | @entry key word hkey hplain =>
      obtain ⟨c, key, rfl⟩ := List.exists_cons_of_ne_nil hkey
      have hc := hplain c List.mem_cons_self
      exact Or.inr ⟨c, _, rfl, isBreak_of_isPlain hc, isGap_of_isPlain hc⟩

section Margin

variable {word : List Char} {gap : Gap} {mark : Mark}

theorem readFrom_break (rest : List Char) :
    Plain.readFrom false 1 ⟨word, gap⟩ mark ('\n' :: rest) =
      Plain.readFrom false 1 ⟨word, gap.addBreak '\n'⟩ (mark.after '\n') rest := by
  rw [Plain.readFrom, if_pos (by decide)]

theorem broken_addBreak (c : Char) : (gap.addBreak c).broken = true := by
  rw [Gap.addBreak]
  split
  · assumption
  · rfl

/-- Behind a line break, a word goes no further than the start of a line. -/
theorem readFrom_margin {c : Char} (hbroken : gap.broken = true) (hcolumn : mark.column = 0)
    (hbreak : isBreak c = false) (hgap : isGap c = false) (rest : List Char) :
    Plain.readFrom false 1 ⟨word, gap⟩ mark (c :: rest) =
      .ok (⟨word, gap⟩, ⟨mark, c :: rest⟩) := by
  have hends : Plain.endsScalar false 1 mark (c :: rest) = true := by
    rw [Plain.endsScalar, hcolumn]
    rfl
  rw [Plain.readFrom, hbreak, hgap, hends, Gap.isOpen, hbroken]
  rfl

/-- Behind a line break, a word is followed by empty lines up to a place from which the lexer goes on as
it would from the first of them. -/
theorem read_margin {lines : List Line} {last : Line} (hlines : ∀ line ∈ lines, line.Proper)
    (hlast : last.Proper) (word : List Char) (hbroken : gap.broken = true)
    (hcolumn : mark.column = 0) :
    ∃ (gap' : Gap) (after : Cursor),
      Plain.readFrom false 1 ⟨word, gap⟩ mark (text lines last) = .ok (⟨word, gap'⟩, after) ∧
      gap'.broken = true ∧ Lexer.skipSpaceFrom false true false after.mark after.rest =
        Lexer.skipSpaceFrom false true false mark (text lines last) := by
  induction lines generalizing gap mark with
  | nil =>
      rw [text, List.flatMap_nil, List.nil_append]
      rcases hlast.head with rfl | ⟨c, rest, hchars, hbreak, hgap⟩
      · exact ⟨gap, _, rfl, hbroken, rfl⟩
      · rw [hchars]
        exact ⟨gap, _, readFrom_margin hbroken hcolumn hbreak hgap rest, hbroken, rfl⟩
  | cons line lines ih =>
      obtain ⟨hline, hrest⟩ := List.forall_mem_cons.mp hlines
      rw [text_cons]
      rcases hline.head with rfl | ⟨c, rest, hchars, hbreak, hgap⟩
      · rw [Line.chars, List.nil_append, readFrom_break, skipSpaceFrom_break]
        exact ih hrest (broken_addBreak _) (after_of_isBreak (by decide))
      · rw [hchars]
        exact ⟨gap, _, readFrom_margin hbroken hcolumn hbreak hgap _, hbroken, rfl⟩

/-- What follows a word in a document: nothing, or a line feed and further lines. -/
inductive Tail : List Char → Prop
  | none : Tail []
  | lines {lines : List Line} {last : Line} (hlines : ∀ line ∈ lines, line.Proper)
      (hlast : last.Proper) : Tail ('\n' :: text lines last)

/-- A word is read as far as its line goes, and the lexer goes on as it would from the end of the line. -/
theorem read_word {tail : List Char} (hword : ∀ c ∈ word, isPlain c = true) (htail : Tail tail) :
    ∃ (lineEnded : Bool) (after : Cursor),
      Plain.read false 1 ⟨mark, word ++ tail⟩ = .ok (word, lineEnded, after) ∧
      ∃ keyAllowed, Lexer.skipSpaceFrom false lineEnded false after.mark after.rest =
        Lexer.skipSpaceFrom false keyAllowed false (mark.past word) tail := by
  rw [Plain.read, Plain.Partial.empty, readFrom_word hword, List.append_nil]
  cases htail with
  | none =>
      rw [Plain.readFrom]
      refine ⟨false, ⟨mark.past word, []⟩, ?_, false, rfl⟩
      simp [bind, Except.bind, pure, Except.pure, Gap.none]
  | lines hlines hlast =>
      have hbroken : (Gap.none.addBreak '\n').broken = true := rfl
      have hcolumn : ((mark.past word).after '\n').column = 0 := after_of_isBreak (by decide)
      obtain ⟨gap, after, hread, hbroken, hskip⟩ :=
        read_margin hlines hlast word.reverse hbroken hcolumn
      rw [readFrom_break, hread]
      refine ⟨true, after, ?_, true, ?_⟩
      · simp [bind, Except.bind, pure, Except.pure, hbroken]
      · rw [skipSpaceFrom_break, hskip]

end Margin

/-! ## Steps of the lexer -/

def entryTokens (entry : List Char × List Char) : List Token :=
  [.key, .scalar .plain entry.1, .value, .scalar .plain entry.2]

/-- The tokens of entries in a block that is not closed yet. -/
def opened (entries : List (List Char × List Char)) : List Token :=
  .blockMappingStart :: entries.flatMap entryTokens

/-- The tokens of entries, of which the first one opens the block. -/
def tokens (entries : List (List Char × List Char)) : List Token :=
  if entries.isEmpty then [] else opened entries

theorem tokens_append (done : List (List Char × List Char)) (entry : List Char × List Char) :
    tokens (done ++ [entry]) = opened done ++ entryTokens entry := by
  have hne : (done ++ [entry]).isEmpty = false := by simp
  rw [tokens, hne, opened, opened, List.flatMap_append]
  simp

/-- The state between lines, after some entries. -/
def state (cursor : Cursor) (keyAllowed : Bool) (done : List (List Char × List Char)) : Lexer where
  cursor := cursor
  indent := if done.isEmpty then -1 else 0
  outer := if done.isEmpty then [] else [-1]
  keyAllowed := keyAllowed
  keys := [none]
  tokens := (tokens done).reverse
  count := (tokens done).length

section Steps

variable {l : Lexer} {fuel : Nat}

theorem run_congr {l' : Lexer} (hskip : l.skipSpace = l'.skipSpace) :
    l.run (fuel + 1) = l'.run (fuel + 1) := by
  rw [Lexer.run, Lexer.run, hskip]

theorem closeBlocks_of_le {column : Int} (hcolumn : l.indent ≤ column) : l.closeBlocks column = l := by
  rw [Lexer.closeBlocks]
  split
  · rfl
  · cases houter : l.outer with
    | nil => rfl
    | cons around outer => rw [Lexer.closeBlocksFrom, if_neg (Int.not_lt.mpr hcolumn)]

/-- A step of the lexer from a place where no separators stand and no block ends. -/
theorem run_token {c : Char} {rest : List Char} (hskip : l.skipSpace = l)
    (hexpire : l.expireKeys = .ok l) (hrest : l.cursor.rest = c :: rest)
    (hcolumn : l.indent ≤ l.column) :
    l.run (fuel + 1) = (l.token c rest).bind (Lexer.run fuel) := by
  rw [Lexer.run, hskip, hexpire]
  simp only [bind, Except.bind]
  rw [hrest]
  dsimp only
  rw [closeBlocks_of_le hcolumn]

theorem expireKeys_none (hkeys : l.keys = [none]) : l.expireKeys = .ok l := by
  rw [Lexer.expireKeys, hkeys]
  cases l
  cases hkeys
  rfl

/-- The characters that can start something else than a plain scalar. -/
def special : List Char :=
  ['%', '[', '{', ']', '}', ',', '-', '.', '?', ':', '*', '&', '!', '|', '>', '\'', '"', '@', '\u0060',
    '\t']

theorem atDocumentMark_eq_false {c : Char} (hc : c ∉ special) (rest : List Char) :
    atDocumentMark (c :: rest) = false := by
  rw [atDocumentMark]
  all_goals
    rintro _ ⟨⟩
    exact absurd hc (by decide)

/-- Any other character starts a plain scalar. -/
theorem token_eq_plainScalar {c : Char} (hc : c ∉ special) (rest : List Char) :
    l.token c rest = l.plainScalar := by
  have hpercent : c ≠ '%' := fun heq => hc (heq ▸ by decide)
  rw [Lexer.token, atDocumentMark_eq_false hc, beq_false_of_ne hpercent]
  · simp only [Bool.and_false, Bool.false_eq_true, if_false]
  all_goals
    rintro rfl
    exact absurd hc (by decide)

theorem not_mem_special {c : Char} (hc : isPlain c = true) : c ∉ special := by
  have hspecial : special.all (!isPlain ·) = true := by decide
  intro hmem
  have hplain := List.all_eq_true.mp hspecial c hmem
  rw [hc] at hplain
  cases hplain

def afterKey (mark : Mark) (required : Bool) (key rest : List Char)
    (done : List (List Char × List Char)) : Lexer :=
  { state ⟨mark.past key, ':' :: ' ' :: rest⟩ false done with
    keys := [some ⟨mark, (tokens done).length, required⟩]
    tokens := .scalar .plain key :: (tokens done).reverse
    count := (tokens done).length + 1 }

def afterColon (mark : Mark) (key rest : List Char) (done : List (List Char × List Char)) : Lexer where
  cursor := ⟨mark, ' ' :: rest⟩
  indent := 0
  outer := [-1]
  keyAllowed := false
  keys := [none]
  tokens := .value :: .scalar .plain key :: .key :: (opened done).reverse
  count := (opened done).length + 3

variable {mark : Mark} {key word rest : List Char} {done : List (List Char × List Char)}

theorem skipSpace_isPlain {c : Char} (hc : isPlain c = true) (hrest : l.cursor.rest = c :: rest) :
    l.skipSpace = l := by
  rw [Lexer.skipSpace, hrest, skipSpaceFrom_isPlain hc, ← hrest]

/-- Where a key may start, a plain scalar is remembered as one. -/
theorem plainScalar_of_keyAllowed (hplain : ∀ c ∈ key, isPlain c = true) :
    ∃ required, (state ⟨mark, key ++ ':' :: ' ' :: rest⟩ true done).plainScalar =
      .ok (afterKey mark required key rest done) := by
  let s := state ⟨mark, key ++ ':' :: ' ' :: rest⟩ true done
  let required := !s.inFlow && s.indent == s.column
  have hoffer : s.offerKey =
      .ok { s with keys := [some ⟨mark, (tokens done).length, required⟩] } := rfl
  refine ⟨required, ?_⟩
  rw [Lexer.plainScalar, hoffer]
  show (Plain.read false (s.indent + 1) ⟨mark, key ++ ':' :: ' ' :: rest⟩).bind _ = _
  rw [read_key hplain]
  rfl

theorem run_key (fuel : Nat) (hkey : key ≠ []) (hplain : ∀ c ∈ key, isPlain c = true) :
    ∃ required, (state ⟨mark, key ++ ':' :: ' ' :: rest⟩ true done).run (fuel + 1) =
      (afterKey mark required key rest done).run fuel := by
  obtain ⟨c, key', hcons⟩ := List.exists_cons_of_ne_nil hkey
  have hc := hplain c (hcons ▸ List.mem_cons_self)
  have hrest : (state ⟨mark, key ++ ':' :: ' ' :: rest⟩ true done).cursor.rest =
      c :: (key' ++ ':' :: ' ' :: rest) := by
    rw [hcons]
    rfl
  have hindent : (state ⟨mark, key ++ ':' :: ' ' :: rest⟩ true done).indent ≤
      (state ⟨mark, key ++ ':' :: ' ' :: rest⟩ true done).column := by
    cases done <;> simp [state, Lexer.column]
  obtain ⟨required, hscalar⟩ := plainScalar_of_keyAllowed hplain
  refine ⟨required, ?_⟩
  rw [run_token (skipSpace_isPlain hc hrest) (expireKeys_none rfl) hrest hindent,
    token_eq_plainScalar (not_mem_special hc), hscalar]
  rfl

theorem token_colon (rest : List Char) : l.token ':' (' ' :: rest) = l.value := by
  rw [Lexer.token]
  simp [atDocumentMark, atSeparator, isSeparator, isGap]

theorem expireKeys_afterKey {required : Bool} (hplain : ∀ c ∈ key, isPlain c = true)
    (hlength : key.length ≤ 1024) : (afterKey mark required key rest done).expireKeys =
      .ok (afterKey mark required key rest done) := by
  have hstale :
      (KeyCandidate.mk mark (tokens done).length required).isStale (mark.past key) = false := by
    rw [KeyCandidate.isStale, past_of_isPlain hplain]
    simp
    omega
  have hexpire : Lexer.expire (mark.past key) (some ⟨mark, (tokens done).length, required⟩) =
      .ok (some ⟨mark, (tokens done).length, required⟩) := by
    rw [Lexer.expire, hstale]
    rfl
  rw [Lexer.expireKeys, afterKey]
  simp [hexpire, state, bind, Except.bind, pure, Except.pure]

/-- The colon makes the remembered scalar a key, which opens the block if it is the first one. -/
theorem value_afterKey {required : Bool} (hcolumn : mark.column = 0) :
    (afterKey mark required key rest done).value =
      .ok (afterColon ((mark.past key).after ':') key rest done) := by
  cases done <;>
    simp [Lexer.value, afterKey, afterColon, state, Lexer.addAt, Lexer.openBlock, Lexer.inFlow,
      hcolumn, Lexer.add, Lexer.skip, Cursor.skipMany, Cursor.skip, tokens, opened]

theorem run_colon {required : Bool} (hplain : ∀ c ∈ key, isPlain c = true)
    (hlength : key.length ≤ 1024) (hcolumn : mark.column = 0) :
    (afterKey mark required key rest done).run (fuel + 1) =
      (afterColon ((mark.past key).after ':') key rest done).run fuel := by
  have hskip : (afterKey mark required key rest done).skipSpace =
      afterKey mark required key rest done := rfl
  have hindent : (afterKey mark required key rest done).indent ≤
      (afterKey mark required key rest done).column := by
    cases done <;> simp [state, Lexer.column, afterKey]
  rw [run_token hskip (expireKeys_afterKey hplain hlength) rfl hindent, token_colon,
    value_afterKey hcolumn]
  rfl

theorem skipSpace_state {cursor cursor' : Cursor} {keyAllowed keyAllowed' : Bool}
    (hskip : Lexer.skipSpaceFrom false keyAllowed false cursor.mark cursor.rest =
      Lexer.skipSpaceFrom false keyAllowed' false cursor'.mark cursor'.rest) :
    (state cursor keyAllowed done).skipSpace = (state cursor' keyAllowed' done).skipSpace := by
  have hspace : ∀ (cursor : Cursor) (keyAllowed : Bool),
      (state cursor keyAllowed done).skipSpace =
        state (Lexer.skipSpaceFrom false keyAllowed false cursor.mark cursor.rest).2
          (Lexer.skipSpaceFrom false keyAllowed false cursor.mark cursor.rest).1 done :=
    fun _ _ => rfl
  rw [hspace, hspace, hskip]

theorem state_append (m : Mark) (cursor : Cursor) (keyAllowed : Bool) :
    state cursor keyAllowed (done ++ [(key, word)]) =
      { afterColon m key [] done with cursor, keyAllowed }.add (.scalar .plain word) := by
  have hne : (done ++ [(key, word)]).isEmpty = false := by simp
  rw [state, tokens_append, hne]
  simp [afterColon, Lexer.add, entryTokens]

/-- A word is read up to the end of its line, or to a place from which the lexer goes on as from
there. -/
theorem run_word {tail : List Char} (hword : word ≠ []) (hplain : ∀ c ∈ word, isPlain c = true)
    (htail : Tail tail) :
    ∃ (m : Mark) (keyAllowed : Bool), (afterColon mark key (word ++ tail) done).run (fuel + 2) =
      (state ⟨m, tail⟩ keyAllowed (done ++ [(key, word)])).run (fuel + 1) := by
  obtain ⟨c, word', hcons⟩ := List.exists_cons_of_ne_nil hword
  have hc := hplain c (hcons ▸ List.mem_cons_self)
  let s := { afterColon mark key [] done with cursor := ⟨mark.after ' ', word ++ tail⟩ }
  have hrest : s.cursor.rest = c :: (word' ++ tail) := by
    rw [← List.cons_append, ← hcons]
  have hspace : s.skipSpace = s := skipSpace_isPlain hc hrest
  have hskip : (afterColon mark key (word ++ tail) done).skipSpace = s.skipSpace := by
    rw [Lexer.skipSpace, Lexer.skipSpace]
    rfl
  obtain ⟨lineEnded, after, hread, keyAllowed, hmargin⟩ :=
    @read_word word (mark.after ' ') tail hplain htail
  have hscalar : s.plainScalar = .ok (state after lineEnded (done ++ [(key, word)])) := by
    have hoffer : s.offerKey = .ok s := rfl
    rw [Lexer.plainScalar, hoffer, state_append mark]
    show (Plain.read false 1 ⟨mark.after ' ', word ++ tail⟩).bind _ = _
    rw [hread]
    rfl
  refine ⟨(mark.after ' ').past word, keyAllowed, ?_⟩
  rw [run_congr hskip, run_token hspace (expireKeys_none rfl) hrest (Int.natCast_nonneg _),
    token_eq_plainScalar (not_mem_special hc), hscalar]
  exact run_congr (skipSpace_state hmargin)

end Steps

/-! ## Whole documents -/

def documentTokens (entries : List (List Char × List Char)) : List Token :=
  if entries.isEmpty then [.streamEnd] else opened entries ++ [.blockEnd, .streamEnd]

section Lines

variable {fuel : Nat} {mark : Mark} {line last : Line} {lines : List Line}
  {done : List (List Char × List Char)}

/-- At the end of the text the block is closed. -/
theorem run_end (keyAllowed : Bool) :
    (state ⟨mark, []⟩ keyAllowed done).run (fuel + 1) = .ok (documentTokens done) := by
  cases done with
  | nil => rfl
  | cons entry done =>
      have hkeys : (state ⟨mark, []⟩ keyAllowed (entry :: done)).skipSpace.expireKeys =
          .ok (state ⟨mark, []⟩ keyAllowed (entry :: done)) := rfl
      have hclosed : (state ⟨mark, []⟩ keyAllowed (entry :: done)).closeBlocks (-1) =
          { (state ⟨mark, []⟩ keyAllowed (entry :: done)).add .blockEnd with
            indent := -1, outer := [] } := rfl
      have hrest : (state ⟨mark, []⟩ keyAllowed (entry :: done)).cursor.rest = [] := rfl
      rw [Lexer.run, hkeys]
      simp only [bind, Except.bind]
      rw [hrest]
      dsimp only
      rw [closeBlocks_of_le (Int.natCast_nonneg _), Lexer.finish, Lexer.leaveBlocks, hclosed]
      simp [state, Lexer.dropKey, Lexer.add, documentTokens, tokens, bind, Except.bind, pure,
        Except.pure]

theorem skipSpaceFrom_tail {keyAllowed : Bool} {tail : List Char} (htail : Tail tail) :
    Lexer.skipSpaceFrom false keyAllowed true mark tail =
      Lexer.skipSpaceFrom false keyAllowed false mark tail := by
  cases htail with
  | none => rfl
  | lines => rw [skipSpaceFrom_break, skipSpaceFrom_break]

/-- A line adds its entry, if it has one. -/
theorem run_line (fuel : Nat) {tail : List Char} (hline : line.Proper) (htail : Tail tail)
    (hcolumn : mark.column = 0) :
    ∃ (m : Mark) (keyAllowed : Bool),
      (state ⟨mark, line.chars ++ tail⟩ true done).run (3 * line.pair?.toList.length + fuel + 1) =
        (state ⟨m, tail⟩ keyAllowed (done ++ line.pair?.toList)).run (fuel + 1) := by
  cases hline with
  | blank => exact ⟨mark, true, by simp [Line.chars, Line.pair?]⟩
  | @comment text htext =>
      refine ⟨(mark.after '#').past text, true, ?_⟩
      have hskip : Lexer.skipSpaceFrom false true false mark (('#' :: text) ++ tail) =
          Lexer.skipSpaceFrom false true false ((mark.after '#').past text) tail := by
        rw [List.cons_append, Lexer.skipSpaceFrom, if_neg (by decide), if_neg (by decide),
          if_pos (by decide), skipSpaceFrom_comment htext, skipSpaceFrom_tail htail]
      simp only [Line.chars, Line.pair?, Option.toList_none, List.length_nil, List.append_nil,
        Nat.mul_zero, Nat.zero_add]
      exact run_congr (skipSpace_state hskip)
  | @entry key word hkey hplain hlength hword hplain' =>
      have hchars : (Line.entry key word).chars ++ tail = key ++ ':' :: ' ' :: (word ++ tail) := by
        simp [Line.chars]
      have hfuel : 3 * (Line.entry key word).pair?.toList.length + fuel + 1 = fuel + 2 + 1 + 1 := by
        simp only [Line.pair?, Option.toList_some, List.length_singleton]
        omega
      obtain ⟨required, hkeyed⟩ := run_key (fuel + 2 + 1) hkey hplain
      rw [hchars, hfuel, hkeyed, run_colon hplain hlength hcolumn]
      exact run_word hword hplain' htail

theorem run_text (hlines : ∀ line ∈ lines, line.Proper) (hlast : last.Proper)
    (hcolumn : mark.column = 0) :
    (state ⟨mark, text lines last⟩ true done).run (3 * (entries lines last).length + fuel + 1) =
      .ok (documentTokens (done ++ entries lines last)) := by
  induction lines generalizing mark done with
  | nil =>
      obtain ⟨m, keyAllowed, hrun⟩ := run_line fuel hlast .none hcolumn
      rw [List.append_nil] at hrun
      rw [text, List.flatMap_nil, List.nil_append, entries_nil, hrun, run_end]
  | cons line lines ih =>
      obtain ⟨hline, hlines⟩ := List.forall_mem_cons.mp hlines
      obtain ⟨m, keyAllowed, hrun⟩ := run_line
        (3 * (entries lines last).length + fuel) hline (.lines hlines hlast) hcolumn
      have hbreak : (state ⟨m, '\n' :: text lines last⟩ keyAllowed
          (done ++ line.pair?.toList)).skipSpace =
          (state ⟨m.after '\n', text lines last⟩ true (done ++ line.pair?.toList)).skipSpace :=
        skipSpace_state (skipSpaceFrom_break false _)
      have hfuel : 3 * (entries (line :: lines) last).length + fuel + 1 =
          3 * line.pair?.toList.length + (3 * (entries lines last).length + fuel) + 1 := by
        rw [entries_cons, List.length_append]
        omega
      rw [hfuel, text_cons, hrun, run_congr hbreak,
        ih hlines (after_of_isBreak (by decide)), entries_cons, List.append_assoc]

/-- An entry has three characters at least: the fuel of the lexer lasts for its three steps. -/
theorem Line.Proper.length_pair?_le (hline : line.Proper) :
    3 * line.pair?.toList.length ≤ line.chars.length := by
  cases hline with
  | blank | comment => exact Nat.zero_le _
  | entry hkey _ _ hword _ =>
      have hkey := List.length_pos_iff.mpr hkey
      simp only [Line.pair?, Line.chars, Option.toList_some, List.length_append, List.length_cons,
        List.length_nil]
      omega

theorem length_entries_le (hlines : ∀ line ∈ lines, line.Proper) (hlast : last.Proper) :
    3 * (entries lines last).length ≤ (text lines last).length := by
  induction lines with
  | nil =>
      rw [text, List.flatMap_nil, List.nil_append, entries_nil]
      exact hlast.length_pair?_le
  | cons line lines ih =>
      obtain ⟨hline, hlines⟩ := List.forall_mem_cons.mp hlines
      have hrest := ih hlines
      have hfirst := hline.length_pair?_le
      rw [entries_cons, text_cons, List.length_append, List.length_append, List.length_cons]
      omega

/-- The tokens of a flat document are those of its entries. -/
theorem ofChars_text (hlines : ∀ line ∈ lines, line.Proper) (hlast : last.Proper) :
    Token.ofChars (text lines last) = .ok (documentTokens (entries lines last)) := by
  have hsimple := isSimple_text hlines hlast
  obtain ⟨fuel, hfuel⟩ := Nat.exists_eq_add_of_le (length_entries_le hlines hlast)
  have hstart : Lexer.start (text lines last) = state ⟨⟨0, 0, 0⟩, text lines last⟩ true [] := rfl
  rw [Token.ofChars, forbidden?_eq_none hsimple, unifyBreaks_eq hsimple]
  dsimp only
  rw [hfuel, hstart, run_text hlines hlast rfl, List.nil_append]

end Lines

end Flat

end DriverValidation.Yaml
