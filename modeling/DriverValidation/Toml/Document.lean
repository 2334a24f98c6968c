import DriverValidation.Toml.Item
import DriverValidation.Toml.Scalar
import DriverValidation.Toml.Text

/-!
Reading a configuration document: lines that are empty, put a value behind a key, or open a table;
a comment may end each of them. Values may be arrays and inline tables up to a depth of 79, keys have
at most 79 parts.
-/

namespace DriverValidation.Toml.Document

/-- The number of nested collections, and of parts of a key, that is too many. -/
def limit : Nat := 80

def isGap (c : Char) : Bool := c == ' ' || c == '\t'

def skipGap (cs : List Char) : List Char := cs.dropWhile isGap

/-- The characters of a key without quotes. -/
def isBare (c : Char) : Bool := c.isAlphanum || c == '_' || c == '-'

/-- The text behind a line break, if one stands here. -/
def lineBreak? : List Char → Option (List Char)
  | '\n' :: rest => some rest
  | '\r' :: '\n' :: rest => some rest
  | _ => none

def isComment (c : Char) : Bool := Text.isContent c

def skipComment : List Char → List Char
  | '#' :: rest => rest.dropWhile isComment
  | cs => cs

/-- Passes over white space, comments and line breaks. -/
def skipLines : Bool → List Char → Except Error (List Char)
  | _, [] => .ok []
  | inComment, c :: rest =>
    if c == '\n' then skipLines false rest
    else if c == '\r' then
      match rest with
      | '\n' :: rest => skipLines false rest
      | _ => .error .controlCharacter
    else if inComment then
      if isComment c then skipLines true rest else .error .controlCharacter
    else if isGap c then skipLines false rest
    else if c == '#' then skipLines true rest
    else .ok (c :: rest)

def readPart : List Char → Except Error (String × List Char)
  | '"' :: rest => Text.readLine true rest
  | '\'' :: rest => Text.readLine false rest
  | cs =>
    let part := cs.takeWhile isBare
    if part.isEmpty then .error .malformedKey
    else .ok (String.ofList part, cs.dropWhile isBare)

/-- The parts of a key, with white space around each. -/
def readParts : Nat → List Char → Except Error (List String × List Char)
  | 0, _ => .error .unreadable
  | fuel + 1, cs => do
    let (part, rest) ← readPart (skipGap cs)
    match skipGap rest with
    | '.' :: rest =>
      let (parts, rest) ← readParts fuel rest
      return (part :: parts, rest)
    | rest => return ([part], rest)

/-- A key: the parts before the last one, and the last one. -/
structure Key where
  path : List String
  last : String
  deriving Repr, DecidableEq

def readKey (cs : List Char) : Except Error (Key × List Char) := do
  let (parts, rest) ← readParts (cs.length + 1) cs
  match parts.getLast? with
  | some last =>
    if limit ≤ parts.length then .error .tooDeep else return (⟨parts.dropLast, last⟩, rest)
  | none => .error .malformedKey

mutual

/-- Reads a value that stands inside of `depth` collections. -/
def readValue (depth : Nat) : Nat → List Char → Except Error (Value × List Char)
  | 0, _ => .error .unreadable
  | fuel + 1, cs =>
    match Text.read? cs with
    | some result => do
      let (s, rest) ← result
      return (.text s, rest)
    | none =>
      match cs with
      | '[' :: rest =>
        if limit ≤ depth + 1 then .error .tooDeep
        else do
          let (items, rest) ← readItems (depth + 1) fuel rest
          return (.array items, rest)
      | '{' :: rest =>
        if limit ≤ depth + 1 then .error .tooDeep
        else do
          let (place, rest) ← readPairs (depth + 1) true ⟨false, false, []⟩ fuel rest
          return (.table (Item.toTable place.entries), rest)
      | cs => Scalar.read cs

/-- Reads the items of an array and its end. -/
def readItems (depth : Nat) : Nat → List Char → Except Error (List Value × List Char)
  | 0, _ => .error .unreadable
  | fuel + 1, cs => do
    match ← skipLines false cs with
    | ']' :: rest => return ([], rest)
    | cs =>
      let (item, rest) ← readValue depth fuel cs
      match ← skipLines false rest with
      | ']' :: rest => return ([item], rest)
      | ',' :: rest =>
        let (items, rest) ← readItems depth fuel rest
        return (item :: items, rest)
      | _ => .error .malformedArray

/-- Reads the entries of an inline table and its end. -/
def readPairs (depth : Nat) (first : Bool) (place : Item.Place) :
    Nat → List Char → Except Error (Item.Place × List Char)
  | 0, _ => .error .unreadable
  | fuel + 1, cs =>
    match first, skipGap cs with
    | true, '}' :: rest => .ok (place, rest)
    | _, cs => do
      let (key, rest) ← readKey cs
      match rest with
      | '=' :: rest =>
        let (value, rest) ← readValue depth fuel (skipGap rest)
        let place ← Item.addValue key.path key.last value place
        match skipGap rest with
        | '}' :: rest => return (place, rest)
        | ',' :: rest => readPairs depth false place fuel rest
        | _ => .error .malformedTable
      | _ => .error .missingEquals

end

/-- The end of a line: white space, perhaps a comment, and a line break or the end of the text. -/
def readLineEnd (cs : List Char) : Except Error (List Char) :=
  match skipComment (skipGap cs) with
  | [] => .ok []
  | cs =>
    match lineBreak? cs with
    | some rest => .ok rest
    | none => .error .missingLineEnd

/-- What has been read of a document: all its tables, and the path to the table that was opened
last. -/
structure Partial where
  root : Item.Place
  current : List String

/-- Puts a value behind a key of the table that was opened last. -/
def Partial.add (p : Partial) (key : Key) (v : Value) : Except Error Partial := do
  return { p with root := ← Item.change false (Item.addValue key.path key.last v) p.current p.root }

/-- Reads the line of a header, behind its opening brackets. -/
def readHeader (p : Partial) (array : Bool) (cs : List Char) :
    Except Error (Partial × List Char) := do
  let (key, rest) ← readKey cs
  let current := key.path ++ [key.last]
  match array, rest with
  | false, ']' :: rest => do
    return (⟨← Item.openTable key.path key.last p.root, current⟩, ← readLineEnd rest)
  | true, ']' :: ']' :: rest => do
    return (⟨← Item.openArrayTable key.path key.last p.root, current⟩, ← readLineEnd rest)
  | _, _ => .error .malformedHeader

def readEntry (p : Partial) (cs : List Char) : Except Error (Partial × List Char) := do
  let (key, rest) ← readKey cs
  match rest with
  | '=' :: rest =>
    let (value, rest) ← readValue 0 (2 * (rest.length + 1)) (skipGap rest)
    let rest ← readLineEnd rest
    return (← p.add key value, rest)
  | _ => .error .missingEquals

/-- Reads lines to the end of the text, of which each takes at least one character. -/
def readFrom (p : Partial) : Nat → List Char → Except Error Partial
  | 0, _ => .error .unreadable
  | fuel + 1, cs => do
    match ← skipLines false cs with
    | [] => return p
    | '[' :: '[' :: rest =>
      let (p, rest) ← readHeader p true rest
      readFrom p fuel rest
    | '[' :: rest =>
      let (p, rest) ← readHeader p false rest
      readFrom p fuel rest
    | cs =>
      let (p, rest) ← readEntry p cs
      readFrom p fuel rest

def withoutOrderMark : List Char → List Char
  | '\uFEFF' :: rest => rest
  | cs => cs

def read (s : String) : Except Error Table := do
  let cs := withoutOrderMark s.toList
  let p ← readFrom ⟨⟨false, false, []⟩, []⟩ (cs.length + 1) cs
  return Item.toTable p.root.entries

end DriverValidation.Toml.Document
