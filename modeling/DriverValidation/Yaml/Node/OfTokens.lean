import DriverValidation.Yaml.Tag

/-!
From tokens to nodes. A node that is missing where one may be left out is an empty plain scalar. The
recursion is over a number that bounds how often it descends; each descent takes a token or follows
one that does, so a small multiple of the number of tokens is enough.
-/

namespace DriverValidation.Yaml.Node

/-- A node as it is written, its aliases being names. -/
abbrev Written := Node (List Char)

/-- An entry of a mapping goes no further at this token, in a block. -/
def endsBlockEntry : List Token → Bool
  | .key :: _ | .value :: _ | .blockEnd :: _ => true
  | _ => false

/-- An item of a block sequence is left out before this token. -/
def endsBlockItem : List Token → Bool
  | .blockEntry :: _ | .blockEnd :: _ => true
  | _ => false

/-- The value of a pair in a flow sequence is left out before this token. -/
def endsFlowPair : List Token → Bool
  | .flowEntry :: _ | .flowSequenceEnd :: _ => true
  | _ => false

/-- The value of an entry of a flow mapping is left out before this token. -/
def endsFlowEntry : List Token → Bool
  | .flowEntry :: _ | .flowMappingEnd :: _ => true
  | _ => false

/-- Reads anchor and tag, in either order. -/
def readProperties (handles : Handles) : List Token → Except Error (Properties × List Token)
  | .anchor a :: .tag handle suffix :: rest => do
    return (⟨some a, some (← Tag.resolve handles handle suffix)⟩, rest)
  | .anchor a :: rest => .ok (⟨some a, none⟩, rest)
  | .tag handle suffix :: .anchor a :: rest => do
    return (⟨some a, some (← Tag.resolve handles handle suffix)⟩, rest)
  | .tag handle suffix :: rest => do
    return (⟨none, some (← Tag.resolve handles handle suffix)⟩, rest)
  | ts => .ok (.none, ts)

def failure {α : Type} (p : Problem) : Except Error α := .error (.malformedStructure p)

/-- The token that must stand before a further member of a flow collection. -/
def readComma (first : Bool) (ts : List Token) : Except Error (List Token) :=
  if first then .ok ts
  else
    match ts with
    | .flowEntry :: rest => .ok rest
    | _ => failure .missingComma

mutual

/-- Reads a node. Block collections are read where `block` holds, and dashes that are not indented
further than the mapping around them where `indentless` holds. -/
def read (handles : Handles) (block indentless : Bool) :
    Nat → List Token → Except Error (Written × List Token)
  | 0, _ => failure .unreadable
  | _ + 1, .alias name :: rest => .ok (.alias name, rest)
  | fuel + 1, ts => do
    let (p, ts) ← readProperties handles ts
    match ts with
    | .scalar style text :: rest => return (.scalar p style text, rest)
    | .flowSequenceStart :: rest =>
      let (items, rest) ← readFlowItems handles true fuel rest
      return (.sequence p items, rest)
    | .flowMappingStart :: rest =>
      let (entries, rest) ← readFlowEntries handles true fuel rest
      return (.mapping p entries, rest)
    | .blockEntry :: _ =>
      if indentless then
        let (items, rest) ← readIndentlessItems handles fuel ts
        return (.sequence p items, rest)
      else if p == .none then failure .missingNode
      else return (empty p, ts)
    | .blockSequenceStart :: rest =>
      if block then
        let (items, rest) ← readBlockItems handles fuel rest
        return (.sequence p items, rest)
      else if p == .none then failure .missingNode
      else return (empty p, ts)
    | .blockMappingStart :: rest =>
      if block then
        let (entries, rest) ← readBlockEntries handles fuel rest
        return (.mapping p entries, rest)
      else if p == .none then failure .missingNode
      else return (empty p, ts)
    | _ => if p == .none then failure .missingNode else return (empty p, ts)

def readBlockItems (handles : Handles) :
    Nat → List Token → Except Error (List Written × List Token)
  | 0, _ => failure .unreadable
  | fuel + 1, .blockEntry :: rest => do
    let (item, rest) ←
      if endsBlockItem rest then pure (empty .none, rest) else read handles true false fuel rest
    let (items, rest) ← readBlockItems handles fuel rest
    return (item :: items, rest)
  | _ + 1, .blockEnd :: rest => .ok ([], rest)
  | _ + 1, _ => failure .missingEntry

/-- Reads the items of a block sequence that no indentation ends. -/
def readIndentlessItems (handles : Handles) :
    Nat → List Token → Except Error (List Written × List Token)
  | 0, _ => failure .unreadable
  | fuel + 1, .blockEntry :: rest => do
    let (item, rest) ←
      if endsBlockItem rest || endsBlockEntry rest then pure (empty .none, rest)
      else read handles true false fuel rest
    let (items, rest) ← readIndentlessItems handles fuel rest
    return (item :: items, rest)
  | _ + 1, ts => .ok ([], ts)

def readBlockEntries (handles : Handles) :
    Nat → List Token → Except Error (List (Written × Written) × List Token)
  | 0, _ => failure .unreadable
  | fuel + 1, .key :: rest => do
    let (key, rest) ←
      if endsBlockEntry rest then pure (empty .none, rest) else read handles true true fuel rest
    let (value, rest) ←
      match rest with
      | .value :: rest =>
        if endsBlockEntry rest then pure (empty .none, rest) else read handles true true fuel rest
      | _ => pure (empty .none, rest)
    let (entries, rest) ← readBlockEntries handles fuel rest
    return ((key, value) :: entries, rest)
  | _ + 1, .blockEnd :: rest => .ok ([], rest)
  | _ + 1, _ => failure .missingKey

/-- Reads the items of a flow sequence and its closing bracket. An item may be a single pair, which
is a mapping of one entry; where its key is left out, the token after the question mark is passed
over. -/
def readFlowItems (handles : Handles) (first : Bool) :
    Nat → List Token → Except Error (List Written × List Token)
  | 0, _ => failure .unreadable
  | _ + 1, .flowSequenceEnd :: rest => .ok ([], rest)
  | fuel + 1, ts => do
    match ← readComma first ts with
    | .flowSequenceEnd :: rest => return ([], rest)
    | .key :: rest =>
      let (key, rest) ←
        match rest with
        | .value :: rest | .flowEntry :: rest | .flowSequenceEnd :: rest =>
          pure (empty .none, rest)
        | _ => read handles false false fuel rest
      let (value, rest) ←
        match rest with
        | .value :: rest =>
          if endsFlowPair rest then pure (empty .none, rest)
          else read handles false false fuel rest
        | _ => pure (empty .none, rest)
      let (items, rest) ← readFlowItems handles false fuel rest
      return (.mapping .none [(key, value)] :: items, rest)
    | ts =>
      let (item, rest) ← read handles false false fuel ts
      let (items, rest) ← readFlowItems handles false fuel rest
      return (item :: items, rest)

/-- Reads the entries of a flow mapping and its closing bracket. -/
def readFlowEntries (handles : Handles) (first : Bool) :
    Nat → List Token → Except Error (List (Written × Written) × List Token)
  | 0, _ => failure .unreadable
  | _ + 1, .flowMappingEnd :: rest => .ok ([], rest)
  | fuel + 1, ts => do
    match ← readComma first ts with
    | .flowMappingEnd :: rest => return ([], rest)
    | .key :: rest =>
      let (key, rest) ←
        match rest with
        | .value :: _ | .flowEntry :: _ | .flowMappingEnd :: _ => pure (empty .none, rest)
        | _ => read handles false false fuel rest
      let (value, rest) ←
        match rest with
        | .value :: rest =>
          if endsFlowEntry rest then pure (empty .none, rest)
          else read handles false false fuel rest
        | _ => pure (empty .none, rest)
      let (entries, rest) ← readFlowEntries handles false fuel rest
      return ((key, value) :: entries, rest)
    | ts =>
      let (key, rest) ← read handles false false fuel ts
      let (entries, rest) ← readFlowEntries handles false fuel rest
      return ((key, empty .none) :: entries, rest)

end

/-- Reads the directives before a document: whether a version was given, and the handles. -/
def readDirectives (versioned : Bool) (handles : Handles) :
    List Token → Except Error (Handles × List Token)
  | .versionDirective major minor :: rest =>
    if versioned then failure .repeatedDirective
    else if major == 1 && (minor == 1 || minor == 2) then readDirectives true handles rest
    else failure .unsupportedVersion
  | .tagDirective handle stem :: rest =>
    if (handles.lookup handle).isSome then failure .repeatedDirective
    else readDirectives versioned (handles ++ [(handle, stem)]) rest
  | ts => .ok (handles ++ Handles.standard, ts)

/-- The document has no content. -/
def endsDocument : List Token → Bool
  | .versionDirective .. :: _ | .tagDirective .. :: _ | .documentStart :: _ | .documentEnd :: _
  | .streamEnd :: _ => true
  | _ => false

/-- Nothing follows the document but marks of its end. -/
def endsStream : List Token → Bool
  | [] | [.streamEnd] => true
  | .documentEnd :: rest => endsStream rest
  | _ => false

/-- The only document of a text, or nothing where the text has none. -/
def ofTokens (ts : List Token) : Except Error (Option Written) := do
  let fuel := 4 * (ts.length + 1)
  let (node, rest) ←
    match ts with
    | .streamEnd :: _ => return none
    | .versionDirective .. :: _ | .tagDirective .. :: _ | .documentStart :: _ =>
      let (handles, rest) ← readDirectives false [] ts
      match rest with
      | .documentStart :: rest =>
        if endsDocument rest then pure (empty .none, rest) else read handles true false fuel rest
      | _ => failure .missingDocumentStart
    | _ => read Handles.standard true false fuel ts
  if endsStream rest then return some node else .error .severalDocuments

end DriverValidation.Yaml.Node
