import DriverValidation.Text.Utf8

/-!
Which bytes are UTF-8. The rows of the table of well-formed bytes are exactly the encodings of the
characters, no encoding is the front of another one, and what bytes start with is told from the
first few of them. So decoding accepts exactly the encodings of texts; its fault stands behind the
longest front that is a text, and is a cut exactly if the bytes can be completed.
-/

namespace DriverValidation.Text.Utf8

def bytesOf (cs : List Char) : List UInt8 := cs.flatMap String.utf8EncodeChar

@[simp] theorem bytesOf_nil : bytesOf [] = [] := rfl

@[simp] theorem bytesOf_cons (c : Char) (cs : List Char) :
    bytesOf (c :: cs) = String.utf8EncodeChar c ++ bytesOf cs := List.flatMap_cons

@[simp] theorem bytesOf_append (as bs : List Char) :
    bytesOf (as ++ bs) = bytesOf as ++ bytesOf bs :=
  List.flatMap_append

theorem encode_eq (s : String) : encode s = bytesOf s.toList := by
  have hbytes : (String.ofList s.toList).toUTF8 = (bytesOf s.toList).toByteArray := rfl
  rw [String.ofList_toList] at hbytes
  rw [encode, hbytes, List.data_toByteArray]

theorem encode_ofList (cs : List Char) : encode (String.ofList cs) = bytesOf cs := by
  rw [encode_eq, String.toList_ofList]

/-! ## The table of well-formed bytes -/

theorem furtherBytes_eq_some_iff {a n : Nat} : furtherBytes a = some n ↔
    n = 0 ∧ a < 0x80 ∨ n = 1 ∧ 0xC2 ≤ a ∧ a < 0xE0 ∨ n = 2 ∧ 0xE0 ≤ a ∧ a < 0xF0 ∨
      n = 3 ∧ 0xF0 ≤ a ∧ a < 0xF5 := by
  simp only [furtherBytes]
  repeat' split
  all_goals simp only [Option.some.injEq, reduceCtorEq, false_iff]
  all_goals omega

theorem isContinuation_iff {b : Nat} : isContinuation b = true ↔ 0x80 ≤ b ∧ b ≤ 0xBF := by
  simp [isContinuation]

theorem secondAllowed_iff {a b : Nat} : secondAllowed a b = true ↔
    (0x80 ≤ b ∧ b ≤ 0xBF) ∧ (a = 0xE0 → 0xA0 ≤ b) ∧ (a = 0xED → b ≤ 0x9F) ∧
      (a = 0xF0 → 0x90 ≤ b) ∧ (a = 0xF4 → b ≤ 0x8F) := by
  simp only [secondAllowed, isContinuation, beq_iff_eq]
  repeat' split
  all_goals simp only [Bool.and_eq_true, decide_eq_true_eq]
  all_goals omega

/-- The bytes of a character and its number, by how many bytes there are. -/
inductive WellFormed : List UInt8 → Nat → Prop
  | one {a : UInt8} (ha : furtherBytes a.toNat = some 0) : WellFormed [a] a.toNat
  | two {a b : UInt8} (ha : furtherBytes a.toNat = some 1)
      (hb : secondAllowed a.toNat b.toNat = true) :
      WellFormed [a, b] ((a.toNat % 32) * 64 + b.toNat % 64)
  | three {a b c : UInt8} (ha : furtherBytes a.toNat = some 2)
      (hb : secondAllowed a.toNat b.toNat = true) (hc : isContinuation c.toNat = true) :
      WellFormed [a, b, c] (((a.toNat % 16) * 64 + b.toNat % 64) * 64 + c.toNat % 64)
  | four {a b c d : UInt8} (ha : furtherBytes a.toNat = some 3)
      (hb : secondAllowed a.toNat b.toNat = true) (hc : isContinuation c.toNat = true)
      (hd : isContinuation d.toNat = true) :
      WellFormed [a, b, c, d]
        ((((a.toNat % 8) * 64 + b.toNat % 64) * 64 + c.toNat % 64) * 64 + d.toNat % 64)

theorem toNat_ofNat_of_valid {n : Nat} (h : n.isValidChar) : (Char.ofNat n).toNat = n := by
  rw [Char.ofNat, dif_pos h]
  rfl

theorem ofNat_eq_of_eq_toNat {n : Nat} {a : UInt8} (h : n = a.toNat) : UInt8.ofNat n = a := by
  rw [h, UInt8.ofNat_toNat]

/-- A row of the table encodes the character whose number it is. -/
theorem WellFormed.encodes {bytes : List UInt8} {n : Nat} (hbytes : WellFormed bytes n) :
    (Char.ofNat n).toNat = n ∧ String.utf8EncodeChar (Char.ofNat n) = bytes := by
  have hvalid : n.isValidChar := by
    cases hbytes <;>
      simp only [furtherBytes_eq_some_iff, secondAllowed_iff, isContinuation_iff,
        Nat.isValidChar] at * <;> omega
  have hn : (Char.ofNat n).val.toNat = n := toNat_ofNat_of_valid hvalid
  refine ⟨hn, ?_⟩
  rw [String.utf8EncodeChar, hn]
  cases hbytes with
  | one ha =>
      simp only [furtherBytes_eq_some_iff] at ha
      rw [if_pos (by omega)]
      exact congrArg (· :: []) (ofNat_eq_of_eq_toNat rfl)
  | @two a b ha hb =>
      simp only [furtherBytes_eq_some_iff, secondAllowed_iff] at ha hb
      rw [if_neg (by omega), if_pos (by omega)]
      rw [ofNat_eq_of_eq_toNat (a := a) (by omega), ofNat_eq_of_eq_toNat (a := b) (by omega)]
  | @three a b c ha hb hc =>
      simp only [furtherBytes_eq_some_iff, secondAllowed_iff, isContinuation_iff] at ha hb hc
      rw [if_neg (by omega), if_neg (by omega), if_pos (by omega)]
      rw [ofNat_eq_of_eq_toNat (a := a) (by omega), ofNat_eq_of_eq_toNat (a := b) (by omega),
        ofNat_eq_of_eq_toNat (a := c) (by omega)]
  | @four a b c d ha hb hc hd =>
      simp only [furtherBytes_eq_some_iff, secondAllowed_iff, isContinuation_iff] at ha hb hc hd
      rw [if_neg (by omega), if_neg (by omega), if_neg (by omega)]
      rw [ofNat_eq_of_eq_toNat (a := a) (by omega), ofNat_eq_of_eq_toNat (a := b) (by omega),
        ofNat_eq_of_eq_toNat (a := c) (by omega), ofNat_eq_of_eq_toNat (a := d) (by omega)]

theorem toNat_ofNat_of_lt {n : Nat} (h : n < 256) : (UInt8.ofNat n).toNat = n := by
  rw [UInt8.toNat_ofNat']
  omega

section Rows

variable {v : Nat}

theorem wellFormed_one (h : v ≤ 0x7F) : WellFormed [UInt8.ofNat v] v := by
  have ha : (UInt8.ofNat v).toNat = v := toNat_ofNat_of_lt (by omega)
  have hrow := WellFormed.one (a := UInt8.ofNat v) (furtherBytes_eq_some_iff.mpr (by omega))
  rwa [ha] at hrow

theorem wellFormed_two (h : 0x7F < v) (hv : v ≤ 0x7FF) :
    WellFormed [UInt8.ofNat (v / 64 % 32 + 192), UInt8.ofNat (v % 64 + 128)] v := by
  have ha : (UInt8.ofNat (v / 64 % 32 + 192)).toNat = v / 64 % 32 + 192 :=
    toNat_ofNat_of_lt (by omega)
  have hb : (UInt8.ofNat (v % 64 + 128)).toNat = v % 64 + 128 := toNat_ofNat_of_lt (by omega)
  have hrow := WellFormed.two (a := UInt8.ofNat (v / 64 % 32 + 192))
    (b := UInt8.ofNat (v % 64 + 128)) (furtherBytes_eq_some_iff.mpr (by omega))
    (secondAllowed_iff.mpr (by omega))
  have hsum : (v / 64 % 32 + 192) % 32 * 64 + (v % 64 + 128) % 64 = v := by omega
  rwa [ha, hb, hsum] at hrow

/-- The surrogates alone have no row of three bytes. -/
theorem wellFormed_three (h : 0x7FF < v) (hv : v ≤ 0xFFFF) (hvalid : v < 0xD800 ∨ 0xDFFF < v) :
    WellFormed [UInt8.ofNat (v / 4096 % 16 + 224), UInt8.ofNat (v / 64 % 64 + 128),
      UInt8.ofNat (v % 64 + 128)] v := by
  have ha : (UInt8.ofNat (v / 4096 % 16 + 224)).toNat = v / 4096 % 16 + 224 :=
    toNat_ofNat_of_lt (by omega)
  have hb : (UInt8.ofNat (v / 64 % 64 + 128)).toNat = v / 64 % 64 + 128 :=
    toNat_ofNat_of_lt (by omega)
  have hc : (UInt8.ofNat (v % 64 + 128)).toNat = v % 64 + 128 := toNat_ofNat_of_lt (by omega)
  have hrow := WellFormed.three (a := UInt8.ofNat (v / 4096 % 16 + 224))
    (b := UInt8.ofNat (v / 64 % 64 + 128)) (c := UInt8.ofNat (v % 64 + 128))
    (furtherBytes_eq_some_iff.mpr (by omega)) (secondAllowed_iff.mpr (by omega))
    (isContinuation_iff.mpr (by omega))
  have hsum : ((v / 4096 % 16 + 224) % 16 * 64 + (v / 64 % 64 + 128) % 64) * 64 +
      (v % 64 + 128) % 64 = v := by omega
  rwa [ha, hb, hc, hsum] at hrow

theorem wellFormed_four (h : 0xFFFF < v) (hv : v < 0x110000) :
    WellFormed [UInt8.ofNat (v / 262144 % 8 + 240), UInt8.ofNat (v / 4096 % 64 + 128),
      UInt8.ofNat (v / 64 % 64 + 128), UInt8.ofNat (v % 64 + 128)] v := by
  have ha : (UInt8.ofNat (v / 262144 % 8 + 240)).toNat = v / 262144 % 8 + 240 :=
    toNat_ofNat_of_lt (by omega)
  have hb : (UInt8.ofNat (v / 4096 % 64 + 128)).toNat = v / 4096 % 64 + 128 :=
    toNat_ofNat_of_lt (by omega)
  have hc : (UInt8.ofNat (v / 64 % 64 + 128)).toNat = v / 64 % 64 + 128 :=
    toNat_ofNat_of_lt (by omega)
  have hd : (UInt8.ofNat (v % 64 + 128)).toNat = v % 64 + 128 := toNat_ofNat_of_lt (by omega)
  have hrow := WellFormed.four (a := UInt8.ofNat (v / 262144 % 8 + 240))
    (b := UInt8.ofNat (v / 4096 % 64 + 128)) (c := UInt8.ofNat (v / 64 % 64 + 128))
    (d := UInt8.ofNat (v % 64 + 128)) (furtherBytes_eq_some_iff.mpr (by omega))
    (secondAllowed_iff.mpr (by omega)) (isContinuation_iff.mpr (by omega))
    (isContinuation_iff.mpr (by omega))
  have hsum : (((v / 262144 % 8 + 240) % 8 * 64 + (v / 4096 % 64 + 128) % 64) * 64 +
      (v / 64 % 64 + 128) % 64) * 64 + (v % 64 + 128) % 64 = v := by omega
  rwa [ha, hb, hc, hd, hsum] at hrow

end Rows

/-- The encoding of each character is a row of the table. -/
theorem wellFormed_encodeChar (c : Char) : WellFormed (String.utf8EncodeChar c) c.toNat := by
  have hvalid : c.toNat.isValidChar := c.valid
  have hv : c.val.toNat = c.toNat := rfl
  rw [Nat.isValidChar] at hvalid
  rw [String.utf8EncodeChar, hv]
  by_cases hone : c.toNat ≤ 0x7F
  · rw [if_pos hone]
    exact wellFormed_one hone
  by_cases htwo : c.toNat ≤ 0x7FF
  · rw [if_neg hone, if_pos htwo]
    exact wellFormed_two (by omega) htwo
  by_cases hthree : c.toNat ≤ 0xFFFF
  · rw [if_neg hone, if_neg htwo, if_pos hthree]
    exact wellFormed_three (by omega) hthree (by omega)
  · rw [if_neg hone, if_neg htwo, if_neg hthree]
    exact wellFormed_four (by omega) (by omega)

/-- Bytes with which the encoding of a character begins that goes on behind them. -/
def Opens (bytes : List UInt8) : Prop :=
  ∃ more c, more ≠ [] ∧ bytes ++ more = String.utf8EncodeChar c

theorem opens_of_wellFormed {bytes : List UInt8} {n : Nat} (more : List UInt8) (hmore : more ≠ [])
    (hrow : WellFormed (bytes ++ more) n) : Opens bytes :=
  ⟨more, Char.ofNat n, hmore, hrow.encodes.2.symm⟩

section Opens

variable {a b c : UInt8} {n : Nat}

theorem opens_of_three (ha : furtherBytes a.toNat = some 3)
    (hb : secondAllowed a.toNat b.toNat = true) (hc : isContinuation c.toNat = true) :
    Opens [a, b, c] :=
  opens_of_wellFormed [0x80] (List.cons_ne_nil _ _) (.four ha hb hc (by decide))

theorem opens_of_two (ha : furtherBytes a.toNat = some (n + 2))
    (hb : secondAllowed a.toNat b.toNat = true) : Opens [a, b] := by
  obtain rfl | rfl : n = 0 ∨ n = 1 := by
    have hn := furtherBytes_eq_some_iff.mp ha
    omega
  · exact opens_of_wellFormed [0x80] (List.cons_ne_nil _ _) (.three ha hb (by decide))
  · exact opens_of_wellFormed [0x80, 0x80] (List.cons_ne_nil _ _)
      (.four ha hb (by decide) (by decide))

theorem opens_of_one (ha : furtherBytes a.toNat = some (n + 1)) : Opens [a] := by
  -- the least byte that the overlong forms leave in second place
  obtain ⟨b, hb⟩ : ∃ b : UInt8, secondAllowed a.toNat b.toNat = true := by
    by_cases hthree : a.toNat = 0xE0
    · exact ⟨0xA0, secondAllowed_iff.mpr (by rw [hthree]; decide)⟩
    by_cases hfour : a.toNat = 0xF0
    · exact ⟨0x90, secondAllowed_iff.mpr (by rw [hfour]; decide)⟩
    · exact ⟨0x80, secondAllowed_iff.mpr ⟨by decide, fun h => absurd h hthree, fun _ => by decide,
        fun h => absurd h hfour, fun _ => by decide⟩⟩
  cases n with
  | zero => exact opens_of_wellFormed [b] (List.cons_ne_nil _ _) (.two ha hb)
  | succ n =>
      obtain ⟨more, c, -, hbytes⟩ := opens_of_two ha hb
      exact ⟨b :: more, c, List.cons_ne_nil _ _, hbytes⟩

end Opens

/-! ## What bytes start with -/

/-- How the bytes behind a first one are read: they end a row of the table, or begin none, or the
row that they begin is broken off by a byte or by their end. -/
inductive Reads (lead : UInt8) : List UInt8 → Front → Prop
  | char {more : List UInt8} {n : Nat} (hrow : WellFormed (lead :: more) n) (rest : List UInt8) :
      Reads lead (more ++ rest) (.char (Char.ofNat n) more.length)
  | invalid (hlead : ∀ t, front lead t = .broken 1) (rest : List UInt8) :
      Reads lead rest (.broken 1)
  | broken (more : List UInt8) {b : UInt8} (hopens : Opens (lead :: more))
      (hbroken : ∀ t, front lead (more ++ b :: t) = .broken (more.length + 1))
      (rest : List UInt8) : Reads lead (more ++ b :: rest) (.broken (more.length + 1))
  | cut {rest : List UInt8} (hopens : Opens (lead :: rest)) : Reads lead rest .cut

/-- Bytes that start with a row of the table start with its character, whatever follows. -/
theorem front_of_wellFormed {lead : UInt8} {more : List UInt8} {n : Nat}
    (hrow : WellFormed (lead :: more) n) (rest : List UInt8) :
    front lead (more ++ rest) = .char (Char.ofNat n) more.length := by
  cases hrow with
  | one ha => simp [front, ha]
  | two ha hb => simp [front, ha, hb]
  | three ha hb hc => simp [front, ha, hb, hc]
  | four ha hb hc hd => simp [front, ha, hb, hc, hd]

theorem reads_front (lead : UInt8) (rest : List UInt8) : Reads lead rest (front lead rest) := by
  cases ha : furtherBytes lead.toNat with
  | none =>
      have hlead : ∀ t, front lead t = .broken 1 := fun t => by simp [front, ha]
      rw [hlead]
      exact .invalid hlead rest
  | some n =>
      rcases n with _ | n
      · have hrow := front_of_wellFormed (.one ha) rest
        rw [List.nil_append] at hrow
        rw [hrow]
        exact .char (.one ha) rest
      rcases rest with _ | ⟨b, rest⟩
      · rw [show front lead [] = .cut by simp [front, ha]]
        exact .cut (opens_of_one ha)
      cases hb : secondAllowed lead.toNat b.toNat with
      | false =>
          have hbroken : ∀ t, front lead (b :: t) = .broken 1 := fun t => by simp [front, ha, hb]
          rw [hbroken]
          exact .broken [] (opens_of_one ha) hbroken rest
      | true =>
          rcases n with _ | n
          · rw [show b :: rest = [b] ++ rest from rfl, front_of_wellFormed (.two ha hb) rest]
            exact .char (.two ha hb) rest
          rcases rest with _ | ⟨c, rest⟩
          · rw [show front lead [b] = .cut by simp [front, ha, hb]]
            exact .cut (opens_of_two ha hb)
          cases hc : isContinuation c.toNat with
          | false =>
              have hbroken : ∀ t, front lead (b :: c :: t) = .broken 2 :=
                fun t => by simp [front, ha, hb, hc]
              rw [hbroken]
              exact .broken [b] (opens_of_two ha hb) hbroken rest
          | true =>
              rcases n with _ | n
              · rw [show b :: c :: rest = [b, c] ++ rest from rfl,
                  front_of_wellFormed (.three ha hb hc) rest]
                exact .char (.three ha hb hc) rest
              obtain rfl : n = 0 := by
                have hn := furtherBytes_eq_some_iff.mp ha
                omega
              rcases rest with _ | ⟨d, rest⟩
              · rw [show front lead [b, c] = .cut by simp [front, ha, hb, hc]]
                exact .cut (opens_of_three ha hb hc)
              cases hd : isContinuation d.toNat with
              | false =>
                  have hbroken : ∀ t, front lead (b :: c :: d :: t) = .broken 3 :=
                    fun t => by simp [front, ha, hb, hc, hd]
                  rw [hbroken]
                  exact .broken [b, c] (opens_of_three ha hb hc) hbroken rest
              | true =>
                  rw [show b :: c :: d :: rest = [b, c, d] ++ rest from rfl,
                    front_of_wellFormed (.four ha hb hc hd) rest]
                  exact .char (.four ha hb hc hd) rest

/-! ## Characters at the front -/

section Characters

variable {lead : UInt8} {rest : List UInt8} {c c' : Char}

theorem exists_encodeChar_eq_cons (c : Char) :
    ∃ lead more, String.utf8EncodeChar c = lead :: more := by
  have hrow := wellFormed_encodeChar c
  generalize c.toNat = n at hrow
  generalize String.utf8EncodeChar c = bytes at hrow
  cases hrow with
  | one | two | three | four => exact ⟨_, _, rfl⟩

theorem front_of_encodeChar {more : List UInt8} (hbytes : String.utf8EncodeChar c = lead :: more)
    (rest : List UInt8) : front lead (more ++ rest) = .char c more.length := by
  have hrow := wellFormed_encodeChar c
  rw [hbytes] at hrow
  rw [front_of_wellFormed hrow rest, Char.ofNat_toNat]

/-- Bytes that start with the encoding of a character are read as starting with it. -/
theorem front_of_prefix (hbegins : String.utf8EncodeChar c <+: lead :: rest) :
    ∃ k, front lead rest = .char c k := by
  obtain ⟨first, more, hbytes⟩ := exists_encodeChar_eq_cons c
  obtain ⟨tail, htail⟩ := hbegins
  rw [hbytes] at htail
  obtain ⟨rfl, rfl⟩ := List.cons.inj htail
  exact ⟨more.length, front_of_encodeChar hbytes tail⟩

/-- What bytes are read as starting with, they do start with. -/
theorem eq_of_front {k : Nat} (hfront : front lead rest = .char c k) :
    lead :: rest = String.utf8EncodeChar c ++ rest.drop k := by
  have hreads := reads_front lead rest
  rw [hfront] at hreads
  cases hreads with
  | char hrow rest =>
      rw [hrow.encodes.2, List.drop_left]
      rfl

/-- No encoding of a character is the front of that of another one. -/
theorem encodeChar_append_inj {xs ys : List UInt8}
    (h : String.utf8EncodeChar c ++ xs = String.utf8EncodeChar c' ++ ys) : c = c' ∧ xs = ys := by
  obtain ⟨lead, more, hbytes⟩ := exists_encodeChar_eq_cons c'
  have hbegins : String.utf8EncodeChar c <+: lead :: (more ++ ys) := ⟨xs, by rw [h, hbytes]; rfl⟩
  obtain ⟨k, hfront⟩ := front_of_prefix hbegins
  rw [front_of_encodeChar hbytes ys] at hfront
  obtain ⟨rfl, -⟩ := Front.char.inj hfront
  exact ⟨rfl, List.append_cancel_left h⟩

theorem front_append_of_broken {n : Nat} (hfront : front lead rest = .broken n)
    (tail : List UInt8) : front lead (rest ++ tail) = .broken n := by
  have hreads := reads_front lead rest
  rw [hfront] at hreads
  cases hreads with
  | invalid hlead rest => exact hlead _
  | broken more hopens hbroken rest =>
      rw [List.append_assoc]
      exact hbroken (rest ++ tail)

end Characters

/-! ## Texts -/

/-- A text that is followed by bytes which continue it to a text is followed by a text. -/
theorem exists_of_bytesOf_eq_append {cs cs' : List Char} {tail : List UInt8}
    (h : bytesOf cs' = bytesOf cs ++ tail) : ∃ more, cs' = cs ++ more ∧ tail = bytesOf more := by
  induction cs generalizing cs' with
  | nil => exact ⟨cs', rfl, h.symm⟩
  | cons c cs ih =>
      cases cs' with
      | nil =>
          obtain ⟨lead, more, hbytes⟩ := exists_encodeChar_eq_cons c
          simp [hbytes] at h
      | cons c' cs' =>
          rw [bytesOf_cons, bytesOf_cons, List.append_assoc] at h
          obtain ⟨rfl, hrest⟩ := encodeChar_append_inj h
          obtain ⟨more, rfl, htail⟩ := ih hrest
          exact ⟨more, rfl, htail⟩

/-- Bytes that start with no character. -/
def Stuck (tail : List UInt8) : Prop := ∀ c, ¬String.utf8EncodeChar c <+: tail

theorem stuck_of_front {lead : UInt8} {rest : List UInt8}
    (hfront : ∀ c k, front lead rest ≠ .char c k) : Stuck (lead :: rest) := by
  intro c hbegins
  obtain ⟨k, hchar⟩ := front_of_prefix hbegins
  exact hfront c k hchar

/-- A text at the front of a text followed by bytes that start with no character is no longer. -/
theorem length_le_of_stuck {cs cs' : List Char} {tail : List UInt8} (htail : Stuck tail)
    (hbegins : bytesOf cs' <+: bytesOf cs ++ tail) :
    (bytesOf cs').length ≤ (bytesOf cs).length := by
  obtain ⟨rest, hrest⟩ := hbegins
  rcases List.append_eq_append_iff.mp hrest with ⟨more, heq, -⟩ | ⟨more, heq, hmore⟩
  · rw [heq, List.length_append]
    omega
  · obtain ⟨more', -, rfl⟩ := exists_of_bytesOf_eq_append heq
    cases more' with
    | nil =>
        rw [bytesOf_nil, List.append_nil] at heq
        exact Nat.le_of_eq (congrArg List.length heq)
    | cons c more' =>
        rw [bytesOf_cons, List.append_assoc] at hmore
        exact absurd ⟨_, hmore.symm⟩ (htail c)

/-- Bytes are a text up to their end or up to a broken or cut piece. -/
theorem exists_text_front (bytes : List UInt8) :
    ∃ cs tail, bytes = bytesOf cs ++ tail ∧ (tail = [] ∨ ∃ lead rest, tail = lead :: rest ∧
      ((∃ n, front lead rest = .broken n) ∨ front lead rest = .cut)) := by
  match bytes with
  | [] => exact ⟨[], [], rfl, Or.inl rfl⟩
  | lead :: rest =>
      cases hfront : front lead rest with
      | broken n => exact ⟨[], lead :: rest, rfl, Or.inr ⟨lead, rest, rfl, Or.inl ⟨n, hfront⟩⟩⟩
      | cut => exact ⟨[], lead :: rest, rfl, Or.inr ⟨lead, rest, rfl, Or.inr hfront⟩⟩
      | char c k =>
          obtain ⟨cs, tail, htext, htail⟩ := exists_text_front (rest.drop k)
          refine ⟨c :: cs, tail, ?_, htail⟩
          rw [eq_of_front hfront, htext, bytesOf_cons, List.append_assoc]
termination_by bytes.length
decreasing_by simp only [List.length_cons, List.length_drop]; omega

/-! ## Decoding -/

theorem decodeFrom_bytesOf_append (index : Nat) (cs : List Char) (tail : List UInt8) :
    decodeFrom index (bytesOf cs ++ tail) =
      (decodeFrom (index + (bytesOf cs).length) tail).map (cs ++ ·) := by
  induction cs generalizing index with
  | nil =>
      show decodeFrom index tail = (decodeFrom index tail).map id
      cases decodeFrom index tail <;> rfl
  | cons c cs ih =>
      obtain ⟨lead, more, hbytes⟩ := exists_encodeChar_eq_cons c
      have hlength : index + (bytesOf (c :: cs)).length =
          index + 1 + more.length + (bytesOf cs).length := by
        rw [bytesOf_cons, hbytes, List.length_append, List.length_cons]
        omega
      rw [hlength, bytesOf_cons, hbytes, List.cons_append, List.cons_append, List.append_assoc,
        decodeFrom, front_of_encodeChar hbytes]
      dsimp only
      rw [List.drop_left, ih]
      cases decodeFrom (index + 1 + more.length + (bytesOf cs).length) tail <;> rfl

theorem decode_bytesOf_append (cs : List Char) (tail : List UInt8) :
    decode (bytesOf cs ++ tail) =
      (decodeFrom (bytesOf cs).length tail).map fun more => String.ofList (cs ++ more) := by
  rw [decode, decodeFrom_bytesOf_append, Nat.zero_add]
  cases decodeFrom (bytesOf cs).length tail <;> rfl

/-- The bytes of a text are decoded to it. -/
theorem decode_encode (s : String) : decode (encode s) = .ok s := by
  have hdecode := decode_bytesOf_append s.toList []
  rw [decodeFrom] at hdecode
  rw [encode_eq, ← List.append_nil (bytesOf s.toList), hdecode]
  show Except.ok (String.ofList (s.toList ++ [])) = _
  rw [List.append_nil, String.ofList_toList]

/-- The fault in some bytes: it stands behind the longest front of them that is a text, and has no
length exactly if the bytes can be completed to a text. -/
structure Locates (bytes : List UInt8) (fault : Fault) : Prop where
  text : ∃ s, encode s <+: bytes ∧ (encode s).length = fault.index
  longest : ∀ s, encode s <+: bytes → (encode s).length ≤ fault.index
  cut_iff : fault.length = none ↔ ∃ more s, bytes ++ more = encode s

theorem locates_of_stuck {cs : List Char} {tail : List UInt8} {fault : Fault} (htail : Stuck tail)
    (hindex : fault.index = (bytesOf cs).length)
    (hcut : fault.length = none ↔ ∃ more s, (bytesOf cs ++ tail) ++ more = encode s) :
    Locates (bytesOf cs ++ tail) fault where
  text := by
    refine ⟨String.ofList cs, ?_, ?_⟩
    · rw [encode_ofList]
      exact List.prefix_append _ _
    · rw [encode_ofList, hindex]
  longest s hbegins := by
    rw [hindex]
    rw [encode_eq] at hbegins ⊢
    exact length_le_of_stuck htail hbegins
  cut_iff := hcut

/-- A text that ends in a piece of a character can be completed. -/
theorem exists_completion {cs : List Char} {tail : List UInt8} (hopens : Opens tail) :
    ∃ more s, (bytesOf cs ++ tail) ++ more = encode s := by
  obtain ⟨more, c, -, hbytes⟩ := hopens
  refine ⟨more, String.ofList (cs ++ [c]), ?_⟩
  rw [encode_ofList, bytesOf_append, bytesOf_cons, ← hbytes, List.append_assoc, bytesOf_nil,
    List.append_nil]

/-- A text that is followed by a broken piece cannot be completed. -/
theorem not_exists_completion {cs : List Char} {lead : UInt8} {rest : List UInt8} {n : Nat}
    (hfront : front lead rest = .broken n) :
    ¬∃ more s, (bytesOf cs ++ lead :: rest) ++ more = encode s := by
  rintro ⟨more, s, htext⟩
  rw [encode_eq, List.append_assoc] at htext
  obtain ⟨cs', -, htail⟩ := exists_of_bytesOf_eq_append htext.symm
  have hstuck : Stuck (lead :: (rest ++ more)) := stuck_of_front fun c k hchar => by
    rw [front_append_of_broken hfront more] at hchar
    cases hchar
  cases cs' with
  | nil => cases htail
  | cons c cs' => exact hstuck c ⟨bytesOf cs', htail.symm⟩

/-- Decoding finds the text that the bytes encode, or a fault in them that it locates. -/
theorem decode_cases (bytes : List UInt8) :
    (∃ s, bytes = encode s ∧ decode bytes = .ok s) ∨
      ∃ fault, decode bytes = .error fault ∧ Locates bytes fault := by
  obtain ⟨cs, tail, rfl, rfl | ⟨lead, rest, rfl, hfront⟩⟩ := exists_text_front bytes
  · refine Or.inl ⟨String.ofList cs, ?_, ?_⟩
    · rw [encode_ofList, List.append_nil]
    · rw [List.append_nil, ← encode_ofList, decode_encode]
  · refine Or.inr ?_
    have hdecode := decode_bytesOf_append cs (lead :: rest)
    rw [decodeFrom] at hdecode
    rcases hfront with ⟨n, hfront⟩ | hfront
    · rw [hfront] at hdecode
      refine ⟨_, hdecode, locates_of_stuck ?_ rfl ?_⟩
      · exact stuck_of_front fun c k hchar => by rw [hfront] at hchar; cases hchar
      · constructor
        · intro hlength
          cases hlength
        · intro hcomplete
          exact absurd hcomplete (not_exists_completion hfront)
    · rw [hfront] at hdecode
      have hreads := reads_front lead rest
      rw [hfront] at hreads
      cases hreads with
      | cut hopens =>
          refine ⟨_, hdecode, locates_of_stuck ?_ rfl ?_⟩
          · exact stuck_of_front fun c k hchar => by rw [hfront] at hchar; cases hchar
          · exact ⟨fun _ => exists_completion hopens, fun _ => rfl⟩

theorem decode_eq_ok_iff {bytes : List UInt8} {s : String} :
    decode bytes = .ok s ↔ bytes = encode s := by
  constructor
  · intro hdecode
    rcases decode_cases bytes with ⟨s', rfl, hok⟩ | ⟨fault, herror, -⟩
    · rw [hdecode] at hok
      rw [Except.ok.inj hok]
    · rw [hdecode] at herror
      cases herror
  · rintro rfl
    exact decode_encode s

/-- A character that the end cuts off, a surrogate, and an overlong form. -/
example : decode [0x61, 0xE2, 0x82] = .error ⟨1, none⟩ ∧
    decode [0x61, 0xED, 0xA0, 0x80] = .error ⟨1, some 1⟩ ∧
    decode [0xC3, 0xBC, 0xC0, 0xAF] = .error ⟨2, some 1⟩ := by cbv

end DriverValidation.Text.Utf8
