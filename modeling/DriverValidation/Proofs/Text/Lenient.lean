import DriverValidation.Proofs.Text.Utf8
import DriverValidation.Text.Blank

/-!
Texts made of what a command wrote. Bytes that need not be a text are read character by character;
where no character can be read, the longest start of one that stands there, or else a single byte,
becomes one replacement character. A text is trimmed to its middle, which white space surrounds and
neither begins nor ends.
-/

namespace DriverValidation.Text

namespace Utf8

/-! ## Reading leniently -/

/-- The piece in front of some bytes that stands for no character: the longest start of one, or else
a single byte. -/
structure Broken (piece rest : List UInt8) : Prop where
  stuck : Stuck (piece ++ rest)
  nonempty : piece ≠ []
  start : Opens piece ∨ piece.length = 1
  longest : ∀ more, more ≠ [] → more <+: rest → ¬Opens (piece ++ more)

/-- What bytes are read as: each character that stands there, and a replacement character for each
broken piece. -/
inductive ReadAs : List UInt8 → List Char → Prop
  | nil : ReadAs [] []
  | char {rest : List UInt8} {cs : List Char} (c : Char) (hrest : ReadAs rest cs) :
      ReadAs (String.utf8EncodeChar c ++ rest) (c :: cs)
  | broken {piece rest : List UInt8} {cs : List Char} (hbroken : Broken piece rest)
      (hrest : ReadAs rest cs) : ReadAs (piece ++ rest) ('\uFFFD' :: cs)

section Front

variable {lead : UInt8} {rest more : List UInt8} {n : Nat}

/-- Bytes that are broken however they go on begin no character. -/
theorem not_opens_of_front (hfront : ∀ t, front lead (more ++ t) = .broken n) :
    ¬Opens (lead :: more) := by
  rintro ⟨tail, c, -, hbytes⟩
  have hchar : front lead (more ++ tail ++ []) = .char c _ := front_of_encodeChar hbytes.symm []
  rw [List.append_assoc, hfront] at hchar
  cases hchar

theorem broken_of_front (hfront : front lead rest = .broken n) :
    Broken (lead :: rest.take (n - 1)) (rest.drop (n - 1)) := by
  have hstuck : Stuck (lead :: rest.take (n - 1) ++ rest.drop (n - 1)) := by
    rw [List.cons_append, List.take_append_drop]
    exact stuck_of_front fun c k hchar => by rw [hfront] at hchar; cases hchar
  have hreads := reads_front lead rest
  rw [hfront] at hreads
  cases hreads with
  | invalid hlead rest =>
      refine ⟨hstuck, List.cons_ne_nil _ _, Or.inr rfl, fun more _ _ => ?_⟩
      exact not_opens_of_front fun t => hlead (more ++ t)
  | @broken more b hopens hbroken rest =>
      rw [Nat.add_sub_cancel, List.take_left, List.drop_left] at hstuck ⊢
      refine ⟨hstuck, List.cons_ne_nil _ _, Or.inl hopens, fun longer hlonger hbegins => ?_⟩
      cases longer with
      | nil => exact absurd rfl hlonger
      | cons b' longer =>
          obtain ⟨rfl, -⟩ := List.cons_prefix_cons.mp hbegins
          have hfront : ∀ t, front lead (more ++ b' :: longer ++ t) = .broken (more.length + 1) :=
            fun t => by rw [List.append_assoc]; exact hbroken (longer ++ t)
          exact not_opens_of_front hfront

theorem broken_of_cut (hfront : front lead rest = .cut) : Broken (lead :: rest) [] := by
  have hreads := reads_front lead rest
  rw [hfront] at hreads
  cases hreads with
  | cut hopens =>
      refine ⟨?_, List.cons_ne_nil _ _, Or.inl hopens, fun more hmore hbegins => ?_⟩
      · rw [List.append_nil]
        exact stuck_of_front fun c k hchar => by rw [hfront] at hchar; cases hchar
      · exact absurd (List.prefix_nil.mp hbegins) hmore

end Front

section Broken

variable {piece rest piece' rest' : List UInt8}

theorem Broken.length_le (hbroken : Broken piece rest) (hbroken' : Broken piece' rest')
    (h : piece ++ rest = piece' ++ rest') : piece.length ≤ piece'.length := by
  rcases List.append_eq_append_iff.mp h with ⟨more, rfl, -⟩ | ⟨more, rfl, rfl⟩
  · rw [List.length_append]
    omega
  · by_cases hmore : more = []
    · exact Nat.le_of_eq (by rw [hmore, List.append_nil])
    · have hnot := hbroken'.longest more hmore (List.prefix_append _ _)
      have hone := hbroken.start.resolve_left hnot
      have hpiece := List.length_pos_iff.mpr hbroken'.nonempty
      rw [List.length_append] at hone ⊢
      omega

/-- Bytes have one broken piece in front at most. -/
theorem Broken.eq (hbroken : Broken piece rest) (hbroken' : Broken piece' rest')
    (h : piece ++ rest = piece' ++ rest') : piece = piece' ∧ rest = rest' :=
  List.append_inj h
    (Nat.le_antisymm (hbroken.length_le hbroken' h) (hbroken'.length_le hbroken h.symm))

end Broken

theorem readAs_lenientChars (bytes : List UInt8) : ReadAs bytes (lenientChars bytes) := by
  match bytes with
  | [] =>
      rw [lenientChars]
      exact .nil
  | lead :: rest =>
      rw [lenientChars]
      cases hfront : front lead rest with
      | char c k =>
          rw [eq_of_front hfront]
          exact .char c (readAs_lenientChars (rest.drop k))
      | broken n =>
          have hread := ReadAs.broken (broken_of_front hfront)
            (readAs_lenientChars (rest.drop (n - 1)))
          rwa [List.cons_append, List.take_append_drop] at hread
      | cut =>
          have hread := ReadAs.broken (broken_of_cut hfront) .nil
          rwa [List.append_nil] at hread
termination_by bytes.length
decreasing_by all_goals simp only [List.length_cons, List.length_drop]; omega

theorem ReadAs.lenientChars_eq {bytes : List UInt8} {cs : List Char} (hread : ReadAs bytes cs) :
    lenientChars bytes = cs := by
  induction hread with
  | nil => rw [lenientChars]
  | char c hrest ih =>
      obtain ⟨lead, more, hbytes⟩ := exists_encodeChar_eq_cons c
      rw [hbytes, List.cons_append, lenientChars, front_of_encodeChar hbytes]
      dsimp only
      rw [List.drop_left, ih]
  | @broken piece rest cs hbroken hrest ih =>
      obtain ⟨lead, more, rfl⟩ := List.exists_cons_of_ne_nil hbroken.nonempty
      rw [List.cons_append, lenientChars]
      cases hfront : front lead (more ++ rest) with
      | char c k => exact absurd ⟨_, (eq_of_front hfront).symm⟩ (hbroken.stuck c)
      | broken n =>
          have heq : lead :: more ++ rest =
              lead :: (more ++ rest).take (n - 1) ++ (more ++ rest).drop (n - 1) := by
            rw [List.cons_append, List.cons_append, List.take_append_drop]
          obtain ⟨-, hrest⟩ := hbroken.eq (broken_of_front hfront) heq
          dsimp only
          rw [← hrest, ih]
      | cut =>
          obtain ⟨-, rfl⟩ := hbroken.eq (broken_of_cut hfront) (List.append_nil _).symm
          rw [lenientChars] at ih
          rw [ih]

/-- The characters of bytes are what they are read as, and nothing else is. -/
theorem lenientChars_eq_iff {bytes : List UInt8} {cs : List Char} :
    lenientChars bytes = cs ↔ ReadAs bytes cs :=
  ⟨fun h => h ▸ readAs_lenientChars bytes, ReadAs.lenientChars_eq⟩

/-- Two bytes of a character that goes on with another letter, and one that begins none. -/
example : lenientChars [0xE2, 0x82, 0x41, 0xFF] = ['\uFFFD', 'A', '\uFFFD'] := by cbv

end Utf8

/-! ## Trimming -/

/-- The middle of some characters: white space surrounds it, and it neither begins nor ends with
any. -/
structure Trimmed (cs middle : List Char) : Prop where
  around : ∃ before after, cs = before ++ (middle ++ after) ∧
    (∀ c ∈ before, isBlank c = true) ∧ ∀ c ∈ after, isBlank c = true
  first : ∀ c, middle.head? = some c → isBlank c = false
  last : ∀ c, middle.getLast? = some c → isBlank c = false

section Ends

variable {p : Char → Bool} {cs after : List Char} {c : Char}

theorem dropWhile_eq_self (hfirst : ∀ c, cs.head? = some c → p c = false) :
    cs.dropWhile p = cs := by
  cases cs with
  | nil => rfl
  | cons c cs => exact List.dropWhile_cons_of_neg (by rw [hfirst c rfl]; exact Bool.false_ne_true)

theorem dropWhile_eq_nil (hall : ∀ c ∈ cs, p c = true) : cs.dropWhile p = [] := by
  rw [← List.append_nil cs, List.dropWhile_append_of_pos hall, List.dropWhile_nil]

theorem not_of_head?_dropWhile (hhead : (cs.dropWhile p).head? = some c) : p c = false := by
  have hnot := List.head?_dropWhile_not p cs
  rwa [hhead] at hnot

theorem exists_before (cs : List Char) :
    ∃ before, cs = before ++ cs.dropWhile isBlank ∧ ∀ c ∈ before, isBlank c = true :=
  ⟨cs.takeWhile isBlank, List.takeWhile_append_dropWhile.symm,
    List.all_eq_true.mp List.all_takeWhile⟩

theorem exists_after (cs : List Char) :
    ∃ after, cs = trimEnd cs ++ after ∧ ∀ c ∈ after, isBlank c = true := by
  obtain ⟨before, heq, hbefore⟩ := exists_before cs.reverse
  refine ⟨before.reverse, ?_, fun c hc => hbefore c (List.mem_reverse.mp hc)⟩
  rw [trimEnd, ← List.reverse_append, ← heq, List.reverse_reverse]

theorem trimEnd_append (hafter : ∀ c ∈ after, isBlank c = true) :
    trimEnd (cs ++ after) = trimEnd cs := by
  have hblank : ∀ c ∈ after.reverse, isBlank c = true :=
    fun c hc => hafter c (List.mem_reverse.mp hc)
  rw [trimEnd, List.reverse_append, List.dropWhile_append_of_pos hblank, trimEnd]

theorem trimEnd_eq_self (hlast : ∀ c, cs.getLast? = some c → isBlank c = false) :
    trimEnd cs = cs := by
  rw [trimEnd, dropWhile_eq_self, List.reverse_reverse]
  intro c hc
  rw [List.head?_reverse] at hc
  exact hlast c hc

end Ends

theorem trimmed_trimChars (cs : List Char) : Trimmed cs (trimChars cs) := by
  obtain ⟨before, hcs, hbefore⟩ := exists_before cs
  obtain ⟨after, hrest, hafter⟩ := exists_after (cs.dropWhile isBlank)
  refine ⟨⟨before, after, ?_, hbefore, hafter⟩, fun c hc => ?_, fun c hc => ?_⟩
  · rw [trimChars, ← hrest, ← hcs]
  · have hhead : (cs.dropWhile isBlank).head? = some c := by
      rw [hrest, List.head?_append]
      exact Option.or_eq_some_iff.mpr (Or.inl hc)
    exact not_of_head?_dropWhile hhead
  · rw [trimChars, trimEnd, List.getLast?_reverse] at hc
    exact not_of_head?_dropWhile hc

theorem Trimmed.trimChars_eq {cs middle : List Char} (htrimmed : Trimmed cs middle) :
    trimChars cs = middle := by
  obtain ⟨⟨before, after, rfl, hbefore, hafter⟩, hfirst, hlast⟩ := htrimmed
  rw [trimChars, List.dropWhile_append_of_pos hbefore]
  cases middle with
  | nil =>
      have hnone : ([] ++ after).dropWhile isBlank = [] := dropWhile_eq_nil hafter
      rw [hnone]
      rfl
  | cons c middle =>
      have hself : (c :: middle ++ after).dropWhile isBlank = c :: middle ++ after :=
        dropWhile_eq_self fun _ hc => hfirst _ hc
      rw [hself, trimEnd_append hafter, trimEnd_eq_self hlast]

/-- The trimmed characters are the middle, and nothing else is. -/
theorem trimChars_eq_iff {cs middle : List Char} : trimChars cs = middle ↔ Trimmed cs middle :=
  ⟨fun h => h ▸ trimmed_trimChars cs, Trimmed.trimChars_eq⟩

end DriverValidation.Text
