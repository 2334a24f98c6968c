import DriverValidation.Proofs.Yaml.Flat.Value
import DriverValidation.Text.Blank

/-!
White space is no mapping. Of the white space that a document may hold, spaces and line breaks are passed
over and all the rest is one plain scalar, so a text without any other characters reads as null or as a
scalar, if it can be read at all.
-/

namespace DriverValidation.Yaml

open Text (isBlank)

section Character

variable {c : Char}

theorem ne_of_isBlank (hc : isBlank c = true) {d : Char} (hd : isBlank d = false) : c ≠ d := by
  rintro rfl
  rw [hc] at hd
  cases hd

theorem isBlank_unifyBreaks {cs : List Char} (hcs : ∀ c ∈ cs, isBlank c = true) :
    ∀ c ∈ unifyBreaks cs, isBlank c = true := by
  induction cs using unifyBreaks.induct with
  | case1 => exact nofun
  | case2 rest ih =>
      rw [unifyBreaks]
      obtain ⟨-, hrest⟩ := List.forall_mem_cons.mp (List.forall_mem_cons.mp hcs).2
      exact List.forall_mem_cons.mpr ⟨by decide, ih hrest⟩
  | case3 rest hrest ih | case4 rest ih =>
      rw [unifyBreaks]
      · exact List.forall_mem_cons.mpr ⟨by decide, ih (List.forall_mem_cons.mp hcs).2⟩
      all_goals assumption
  | case5 c rest hlines hreturn hnext ih =>
      obtain ⟨hc, hrest⟩ := List.forall_mem_cons.mp hcs
      rw [unifyBreaks]
      · exact List.forall_mem_cons.mpr ⟨hc, ih hrest⟩
      all_goals assumption

/-- A character of white space starts a plain scalar, if it is no tab. -/
theorem not_mem_special_of_isBlank (hc : isBlank c = true) (htab : c ≠ '\t') : c ∉ Flat.special := by
  have hspecial : Flat.special.all (fun d => d == '\t' || !isBlank d) = true := by decide
  intro hmem
  have hblank := List.all_eq_true.mp hspecial c hmem
  rw [hc, beq_false_of_ne htab] at hblank
  cases hblank

end Character

/-! ## Reading white space -/

theorem readFrom_isBlank {cs : List Char} (hcs : ∀ c ∈ cs, isBlank c = true) (done : Plain.Partial)
    (mark : Mark) :
    ∃ done' mark', Plain.readFrom false 0 done mark cs = .ok (done', ⟨mark', []⟩) := by
  induction cs generalizing done mark with
  | nil => exact ⟨done, mark, rfl⟩
  | cons c cs ih =>
      obtain ⟨hc, hcs⟩ := List.forall_mem_cons.mp hcs
      have hcolumn : ¬(mark.column : Int) < 0 := by omega
      have hword : Plain.endsWord false (c :: cs) = false := by
        rw [Plain.endsWord, beq_false_of_ne (ne_of_isBlank hc (by decide))]
        rfl
      have hcolon : Plain.colonBeforeIndicator false (c :: cs) = false := by
        rw [Plain.colonBeforeIndicator.eq_def]
        split <;> rfl
      rw [Plain.readFrom]
      split
      · exact ih hcs _ _
      · split
        · rw [decide_eq_false hcolumn, Bool.and_false, Bool.false_and, if_neg Bool.false_ne_true]
          exact ih hcs _ _
        · rename_i hgap
          have htab : c ≠ '\t' := fun heq => hgap (heq ▸ by decide)
          have hends : Plain.endsScalar false 0 mark (c :: cs) = false := by
            rw [Plain.endsScalar, decide_eq_false hcolumn,
              Flat.atDocumentMark_eq_false (not_mem_special_of_isBlank hc htab)]
            simp [ne_of_isBlank hc (d := '#') (by decide)]
          rw [hends, hword, hcolon, Bool.and_false]
          exact ih hcs _ _

theorem skipSpaceFrom_subset (inFlow keyAllowed inComment : Bool) (mark : Mark) (cs : List Char) :
    ∀ c ∈ (Lexer.skipSpaceFrom inFlow keyAllowed inComment mark cs).2.rest, c ∈ cs := by
  induction cs generalizing keyAllowed inComment mark with
  | nil => exact nofun
  | cons d cs ih =>
      have hlater : ∀ keyAllowed inComment mark,
          ∀ c ∈ (Lexer.skipSpaceFrom inFlow keyAllowed inComment mark cs).2.rest, c ∈ d :: cs :=
        fun keyAllowed inComment mark c hc => List.mem_cons_of_mem _ (ih _ _ _ c hc)
      rw [Lexer.skipSpaceFrom]
      split
      · exact hlater _ _ _
      · split
        · exact hlater _ _ _
        · split
          · exact hlater _ _ _
          · split
            · exact hlater _ _ _
            · exact fun c hc => hc

section Lexer

variable {l l' : Lexer} {fuel : Nat} {tokens : List Token}

theorem keys_of_expireKeys (hexpire : l.expireKeys = .ok l') : ∃ keys, l' = { l with keys } := by
  rw [Lexer.expireKeys] at hexpire
  cases hkeys : l.keys.mapM (Lexer.expire l.cursor.mark) with
  | error e =>
      rw [hkeys] at hexpire
      cases hexpire
  | ok keys =>
      rw [hkeys] at hexpire
      exact ⟨keys, (Except.ok.inj hexpire).symm⟩

theorem keys_of_dropKey (hdrop : l.dropKey = .ok l') : ∃ keys, l' = { l with keys } := by
  rw [Lexer.dropKey] at hdrop
  split at hdrop
  · split at hdrop
    · cases hdrop
    · exact ⟨_, (Except.ok.inj hdrop).symm⟩
  · exact ⟨l.keys, (Except.ok.inj hdrop).symm⟩

theorem closeBlocks_of_outer (houter : l.outer = []) (column : Int) : l.closeBlocks column = l := by
  rw [Lexer.closeBlocks, houter]
  split <;> rfl

theorem tokens_of_finish (houter : l.outer = []) (hfinish : l.finish = .ok tokens) :
    tokens = (Token.streamEnd :: l.tokens).reverse := by
  rw [Lexer.finish, Lexer.leaveBlocks, closeBlocks_of_outer houter] at hfinish
  cases hdrop : l.dropKey with
  | error e =>
      rw [hdrop] at hfinish
      cases hfinish
  | ok l' =>
      obtain ⟨keys, rfl⟩ := keys_of_dropKey hdrop
      rw [hdrop] at hfinish
      exact (Except.ok.inj hfinish).symm

/-- At the end of the text the lexer has the tokens that it read. -/
theorem tokens_of_run (houter : l.outer = []) (hrest : l.cursor.rest = [])
    (hrun : l.run fuel = .ok tokens) : tokens = (Token.streamEnd :: l.tokens).reverse := by
  cases fuel with
  | zero => cases hrun
  | succ fuel =>
      have hskip : l.skipSpace = l := by
        rw [Lexer.skipSpace, hrest, Lexer.skipSpaceFrom, ← hrest]
      rw [Lexer.run, hskip] at hrun
      cases hexpire : l.expireKeys with
      | error e =>
          rw [hexpire] at hrun
          cases hrun
      | ok l' =>
          obtain ⟨keys, rfl⟩ := keys_of_expireKeys hexpire
          rw [hexpire] at hrun
          simp only [bind, Except.bind] at hrun
          rw [hrest] at hrun
          have hclose : ∀ column, { l with keys }.closeBlocks column = { l with keys } :=
            closeBlocks_of_outer houter
          dsimp only at hrun
          rw [hclose] at hrun
          exact tokens_of_finish (l := { l with keys }) houter hrun

end Lexer

/-- The tokens of white space: none, or a single scalar. -/
def IsIdle (tokens : List Token) : Prop :=
  tokens = [.streamEnd] ∨ ∃ word, tokens = [.scalar .plain word, .streamEnd]

/-- From the start, white space is taken for one plain scalar that goes to the end of the text. -/
theorem plainScalar_of_isBlank {cs : List Char} (hcs : ∀ c ∈ cs, isBlank c = true) (mark : Mark)
    (keyAllowed : Bool) :
    ∃ word l, (Flat.state ⟨mark, cs⟩ keyAllowed []).plainScalar = .ok l ∧ l.outer = [] ∧
      l.cursor.rest = [] ∧ l.tokens = [.scalar .plain word] := by
  let l := Flat.state ⟨mark, cs⟩ keyAllowed []
  obtain ⟨key, hoffer⟩ : ∃ key, l.offerKey = .ok { l with keys := [key] } := by
    cases keyAllowed with
    | false => exact ⟨none, rfl⟩
    | true => exact ⟨some _, rfl⟩
  obtain ⟨done, mark', hread⟩ := readFrom_isBlank hcs .empty mark
  have hscalar : l.plainScalar = .ok ({ l with
      cursor := ⟨mark', []⟩, keyAllowed := done.gap.broken, keys := [key] }.add
        (.scalar .plain done.text.reverse)) := by
    rw [Lexer.plainScalar, hoffer]
    show (Plain.read false 0 ⟨mark, cs⟩).bind _ = _
    rw [Plain.read, hread]
    rfl
  exact ⟨done.text.reverse, _, hscalar, rfl, rfl, rfl⟩

theorem isIdle_of_run {cs : List Char} {fuel : Nat} {tokens : List Token}
    (hcs : ∀ c ∈ cs, isBlank c = true) (hrun : (Lexer.start cs).run fuel = .ok tokens) :
    IsIdle tokens := by
  cases fuel with
  | zero => cases hrun
  | succ fuel =>
      have hsubset := skipSpaceFrom_subset false true false ⟨0, 0, 0⟩ cs
      have hskip : (Lexer.start cs).skipSpace =
          Flat.state (Lexer.skipSpaceFrom false true false ⟨0, 0, 0⟩ cs).2
            (Lexer.skipSpaceFrom false true false ⟨0, 0, 0⟩ cs).1 [] := rfl
      rw [Lexer.run, hskip] at hrun
      generalize Lexer.skipSpaceFrom false true false ⟨0, 0, 0⟩ cs = space at hsubset hrun
      obtain ⟨keyAllowed, mark, rest⟩ := space
      let l := Flat.state ⟨mark, rest⟩ keyAllowed []
      have hexpire : l.expireKeys = .ok l := Flat.expireKeys_none rfl
      have hclose : ∀ column, l.closeBlocks column = l := closeBlocks_of_outer rfl
      change (l.expireKeys.bind fun l => _) = _ at hrun
      rw [hexpire] at hrun
      simp only [Except.bind] at hrun
      cases rest with
      | nil =>
          have hrun : (l.closeBlocks l.column).finish = .ok tokens := hrun
          rw [hclose] at hrun
          exact Or.inl (tokens_of_finish rfl hrun)
      | cons c rest =>
          have hblank : ∀ d ∈ c :: rest, isBlank d = true := fun d hd => hcs d (hsubset d hd)
          have hc := hblank c List.mem_cons_self
          have hrun : ((l.closeBlocks l.column).token c rest).bind (Lexer.run fuel) = .ok tokens := hrun
          rw [hclose] at hrun
          by_cases htab : c = '\t'
          · subst htab
            rw [Lexer.token] at hrun
            simp [atDocumentMark, Lexer.fail, Except.bind] at hrun
          · rw [Flat.token_eq_plainScalar (not_mem_special_of_isBlank hc htab)] at hrun
            obtain ⟨word, l', hscalar, houter, hend, htokens⟩ :=
              plainScalar_of_isBlank hblank mark keyAllowed
            rw [hscalar] at hrun
            have hread := tokens_of_run houter hend hrun
            rw [htokens] at hread
            exact Or.inr ⟨word, hread⟩

theorem isIdle_of_ofChars {cs : List Char} {tokens : List Token}
    (hcs : ∀ c ∈ cs, isBlank c = true) (htokens : Token.ofChars cs = .ok tokens) :
    IsIdle tokens := by
  rw [Token.ofChars] at htokens
  split at htokens
  · cases htokens
  · exact isIdle_of_run (isBlank_unifyBreaks hcs) htokens

namespace Value

/-- White space does not read as a mapping. -/
theorem isScalar_of_isBlank {s : String} {v : Value} (hs : ∀ c ∈ s.toList, isBlank c = true)
    (hread : ofText s = .ok v) : IsScalar v := by
  rw [ofText, Document.ofChars] at hread
  cases htokens : Token.ofChars s.toList with
  | error e =>
      rw [htokens] at hread
      cases hread
  | ok tokens =>
      rw [htokens] at hread
      rcases isIdle_of_ofChars hs htokens with rfl | ⟨word, rfl⟩
      · rw [← Except.ok.inj hread]
        intro entries hnull
        cases hnull
      · have hvalue : (ofNode .none depthLimit (.scalar .none .plain word)
            (Document.aliasLimit ⟨some (.scalar .none .plain word), .none⟩)).map (·.1) = .ok v := hread
        rw [Flat.ofNode_scalar] at hvalue
        cases hword : ofPlain word with
        | error e =>
            rw [hword] at hvalue
            cases hvalue
        | ok w =>
            rw [hword] at hvalue
            rw [← Except.ok.inj hvalue]
            exact isScalar_of_ofPlain hword

end Value

end DriverValidation.Yaml
