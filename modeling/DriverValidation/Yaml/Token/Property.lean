import DriverValidation.Yaml.Error
import DriverValidation.Yaml.Token
import DriverValidation.Text.Code

/-!
Aliases, anchors, tags and directives. A tag is a handle and a suffix, or stands in angle brackets
as it is; in both forms, and in the stem that a directive gives to a handle, bytes may be written
as a percent sign and two hexadecimal digits, as long as they are the bytes of characters.
-/

namespace DriverValidation.Yaml.Property

/-- The number of bytes of a character that a byte may start. -/
def width? (lead : Nat) : Option Nat :=
  if lead < 0x80 then some 1
  else if lead < 0xC0 then none
  else if lead < 0xE0 then some 2
  else if lead < 0xF0 then some 3
  else if lead < 0xF8 then some 4
  else none

/-- How many further bytes of a character written by its bytes are missing. -/
def stillMissing (missing byte : Nat) : Option Nat :=
  if missing == 0 then (width? byte).map (· - 1)
  else if 0x80 ≤ byte && byte < 0xC0 then some (missing - 1)
  else none

/-- Reads the characters of a tag from `mark` on, of whose last character written by its bytes
`missing` bytes are still to come. -/
def readTagText (full : Bool) (missing : Nat) (mark : Mark) :
    List Char → Except Error (List UInt8 × Cursor)
  | [] => if missing == 0 then .ok ([], ⟨mark, []⟩) else .error (.malformed .malformedTag mark)
  | '%' :: rest =>
    match rest with
    | high :: low :: rest =>
      match Text.hexDigit? high, Text.hexDigit? low with
      | some h, some l =>
        match stillMissing missing (h * 16 + l) with
        | some missing => do
          let (text, after) ←
            readTagText full missing (((mark.after '%').after high).after low) rest
          return ((h * 16 + l).toUInt8 :: text, after)
        | none => .error (.malformed .malformedTag mark)
      | _, _ => .error (.malformed .malformedTag mark)
    | _ => .error (.malformed .malformedTag mark)
  | c :: rest =>
    if missing != 0 then .error (.malformed .malformedTag mark)
    else if isTagCharacter full c then do
      let (text, after) ← readTagText full 0 (mark.after c) rest
      return (c.toNat.toUInt8 :: text, after)
    else .ok ([], ⟨mark, c :: rest⟩)

/-- The bytes of ASCII characters. -/
def bytesOf (cs : List Char) : List UInt8 := cs.map fun c => c.toNat.toUInt8

/-- The bytes before the first zero byte, which ends a tag. -/
def beforeNul (bytes : List UInt8) : List UInt8 := bytes.takeWhile (· != 0)

/-- The handle at a place: an exclamation mark, word characters, and perhaps another exclamation
mark. -/
def readHandle (c : Cursor) : Except Error (List Char × Cursor) :=
  if c.peek? == some '!' then
    let (word, after) := c.skip.span isWord
    if after.peek? == some '!' then .ok ('!' :: word ++ ['!'], after.skip)
    else .ok ('!' :: word, after)
  else .error (.malformed .malformedTag c.mark)

/-- A handle that is closed by a second exclamation mark. -/
def isClosed (handle : List Char) : Bool :=
  1 < handle.length && handle.getLast? == some '!'

/-- The tag in angle brackets at a place. -/
def readVerbatim (c : Cursor) : Except Error (Token × Cursor) := do
  let (suffix, after) ← readTagText true 0 (c.skipMany 2).mark (c.skipMany 2).rest
  if suffix.isEmpty || after.peek? != some '>' then
    .error (.malformed .malformedTag after.mark)
  else return (.tag [] suffix, after.skip)

/-- The tag of a handle and a suffix at a place; a lone exclamation mark is a tag by itself. -/
def readShorthand (c : Cursor) : Except Error (Token × Cursor) := do
  let (handle, after) ← readHandle c
  let (suffix, after) ← readTagText false 0 after.mark after.rest
  if isClosed handle then
    if suffix.isEmpty then .error (.malformed .malformedTag after.mark)
    else return (.tag handle suffix, after)
  else
    let suffix := bytesOf handle.tail ++ suffix
    if (beforeNul suffix).isEmpty then return (.tag [] (bytesOf ['!']), after)
    else return (.tag ['!'] suffix, after)

def readTag (inFlow : Bool) (c : Cursor) : Except Error (Token × Cursor) := do
  let (token, after) ←
    if c.skip.peek? == some '<' then readVerbatim c else readShorthand c
  if atSeparator after.rest || (inFlow && after.peek? == some ',') then return (token, after)
  else .error (.malformed .malformedTag after.mark)

/-- The name of the alias or anchor whose indicator stands at a place. -/
def readName (c : Cursor) : Except Error (List Char × Cursor) :=
  let (name, after) := c.skip.span isWord
  let ended := atSeparator after.rest ||
    after.peek?.any ['?', ':', ',', ']', '}', '%', '@', '\u0060'].contains
  if name.isEmpty || !ended then .error (.malformed .malformedAnchor after.mark)
  else .ok (name, after)

/-- A number of at most nine digits. -/
def readVersionNumber (c : Cursor) : Except Error (Nat × Cursor) :=
  let (digits, after) := c.span Char.isDigit
  if digits.isEmpty || 9 < digits.length then .error (.malformed .malformedDirective c.mark)
  else .ok (digits.foldl (fun n d => n * 10 + (d.toNat - '0'.toNat)) 0, after)

def readVersion (c : Cursor) : Except Error (Token × Cursor) := do
  let (major, after) ← readVersionNumber (c.skipWhile isGap)
  if after.peek? != some '.' then .error (.malformed .malformedDirective after.mark)
  else
    let (minor, after) ← readVersionNumber after.skip
    return (.versionDirective major minor, after)

/-- The value of a tag directive: a handle that is closed or a lone exclamation mark, and the stem
it stands for. -/
def readStem (c : Cursor) : Except Error (Token × Cursor) := do
  let (handle, after) ← readHandle (c.skipWhile isGap)
  if handle != ['!'] && !isClosed handle then .error (.malformed .malformedDirective after.mark)
  else if !after.peek?.any isGap then .error (.malformed .malformedDirective after.mark)
  else
    let after := after.skipWhile isGap
    let (stem, after) ← readTagText true 0 after.mark after.rest
    if stem.isEmpty || !atSeparator after.rest then
      .error (.malformed .malformedDirective after.mark)
    else return (.tagDirective handle stem, after)

/-- The directive whose percent sign stands at a place, with its line. -/
def readDirective (c : Cursor) : Except Error (Token × Cursor) := do
  let (name, after) := c.skip.span isWord
  if name.isEmpty || !atSeparator after.rest then
    .error (.malformed .malformedDirective after.mark)
  else
    let (token, after) ←
      if name == ['Y', 'A', 'M', 'L'] then readVersion after
      else if name == ['T', 'A', 'G'] then readStem after
      else .error (.malformed .unknownDirective after.mark)
    let after := after.skipWhile isGap
    let after := if after.peek? == some '#' then after.skipWhile (!isBreak ·) else after
    if atLineEnd after.rest then return (token, after.skip)
    else .error (.malformed .trailingCharacters after.mark)

end DriverValidation.Yaml.Property
