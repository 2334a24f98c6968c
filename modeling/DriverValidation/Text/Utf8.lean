/-!
Reading bytes as UTF-8: strictly, with the place and length of the first fault, and leniently, with
one replacement character for each maximal piece that no character can start with.
-/

namespace DriverValidation.Text.Utf8

/-- The first place at which bytes stop being UTF-8: `length` counts the bytes of the broken piece
and is absent where the bytes end inside a character. -/
structure Fault where
  index : Nat
  length : Option Nat
  deriving Repr, DecidableEq

def Fault.message : Fault → String
  | ⟨index, some length⟩ => s!"invalid utf-8 sequence of {length} bytes from index {index}"
  | ⟨index, none⟩ => s!"incomplete utf-8 byte sequence from index {index}"

/-- What a non-empty list of bytes starts with: a character with its number of further bytes, a
broken piece of some length, or a character that the end of the bytes cuts off. -/
inductive Front where
  | char (c : Char) (further : Nat)
  | broken (length : Nat)
  | cut
  deriving Repr, DecidableEq

def isContinuation (b : Nat) : Bool := 0x80 ≤ b && b ≤ 0xBF

/-- The bytes allowed in second place after the leading byte `lead`: the bounds exclude overlong
forms, surrogates and numbers beyond the last character. -/
def secondAllowed (lead b : Nat) : Bool :=
  if lead == 0xE0 then 0xA0 ≤ b && b ≤ 0xBF
  else if lead == 0xED then 0x80 ≤ b && b ≤ 0x9F
  else if lead == 0xF0 then 0x90 ≤ b && b ≤ 0xBF
  else if lead == 0xF4 then 0x80 ≤ b && b ≤ 0x8F
  else isContinuation b

/-- The number of bytes that follow a leading byte, if it is one. -/
def furtherBytes (lead : Nat) : Option Nat :=
  if lead < 0x80 then some 0
  else if lead < 0xC2 then none
  else if lead < 0xE0 then some 1
  else if lead < 0xF0 then some 2
  else if lead < 0xF5 then some 3
  else none

/-- What the bytes `lead :: rest` start with. -/
def front (lead : UInt8) (rest : List UInt8) : Front :=
  let a := lead.toNat
  match furtherBytes a with
  | none => .broken 1
  | some 0 => .char (Char.ofNat a) 0
  | some n =>
    match rest with
    | [] => .cut
    | b :: rest =>
      if !secondAllowed a b.toNat then .broken 1
      else if n == 1 then .char (Char.ofNat ((a % 32) * 64 + b.toNat % 64)) 1
      else
        match rest with
        | [] => .cut
        | c :: rest =>
          if !isContinuation c.toNat then .broken 2
          else if n == 2 then
            .char (Char.ofNat (((a % 16) * 64 + b.toNat % 64) * 64 + c.toNat % 64)) 2
          else
            match rest with
            | [] => .cut
            | d :: _ =>
              if !isContinuation d.toNat then .broken 3
              else
                .char (Char.ofNat
                  ((((a % 8) * 64 + b.toNat % 64) * 64 + c.toNat % 64) * 64 + d.toNat % 64)) 3

/-- Decodes bytes of which the first stands at `index`. -/
def decodeFrom (index : Nat) (bytes : List UInt8) : Except Fault (List Char) :=
  match bytes with
  | [] => .ok []
  | lead :: rest =>
    match front lead rest with
    | .char c further => (decodeFrom (index + 1 + further) (rest.drop further)).map (c :: ·)
    | .broken length => .error ⟨index, some length⟩
    | .cut => .error ⟨index, none⟩
termination_by bytes.length
decreasing_by simp only [List.length_cons, List.length_drop]; omega

/-- The text that the bytes encode, or the first fault in them. -/
def decode (bytes : List UInt8) : Except Fault String :=
  (decodeFrom 0 bytes).map String.ofList

/-- The characters of the bytes, a replacement character standing for each broken piece. -/
def lenientChars (bytes : List UInt8) : List Char :=
  match bytes with
  | [] => []
  | lead :: rest =>
    match front lead rest with
    | .char c further => c :: lenientChars (rest.drop further)
    | .broken length => '\uFFFD' :: lenientChars (rest.drop (length - 1))
    | .cut => ['\uFFFD']
termination_by bytes.length
decreasing_by all_goals simp only [List.length_cons, List.length_drop]; omega

/-- The text of the bytes, a replacement character standing for each broken piece. -/
def lenient (bytes : List UInt8) : String :=
  String.ofList (lenientChars bytes)

/-- The bytes of a text. -/
def encode (s : String) : List UInt8 :=
  s.toUTF8.data.toList

end DriverValidation.Text.Utf8
