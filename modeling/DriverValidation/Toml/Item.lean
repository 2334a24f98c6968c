import DriverValidation.Toml.Value

/-!
The tables of a document while it is read. Each table remembers how it came about, since that
decides what may still be added to it: by a header of its own, only because a longer header or key
goes through it, or by a key with dots.
-/

namespace DriverValidation.Toml

/-- What stands behind a key: a value that is complete, a table, or the tables of an array, latest
first. A table is implicit until a header of its own is met, and dotted if a key with dots made
it. -/
inductive Item where
  | value (v : Value)
  | table (implicit dotted : Bool) (entries : List (String × Item))
  | tables (latestFirst : List (List (String × Item)))

namespace Item

/-- The entries of a table with what stands behind a key replaced, or put at the end. -/
def put (key : String) (item : Item) : List (String × Item) → List (String × Item)
  | [] => [(key, item)]
  | (k, i) :: rest => if k == key then (k, item) :: rest else (k, i) :: put key item rest

/-- A table together with how it came about. -/
structure Place where
  implicit : Bool
  dotted : Bool
  entries : List (String × Item)

/-- The table with something put behind a key. -/
def Place.put (place : Place) (key : String) (item : Item) : Place :=
  { place with entries := Item.put key item place.entries }

/-- Changes the table at the end of a path, making the tables on the way that are missing. A path of
a key with dots may only go through tables without a header of their own. -/
def change (viaDots : Bool) (f : Place → Except Error Place) :
    List String → Place → Except Error Place
  | [], place => f place
  | key :: path, place =>
    match place.entries.lookup key with
    | none => do
      let inner ← change viaDots f path ⟨true, viaDots, []⟩
      return place.put key (.table inner.implicit inner.dotted inner.entries)
    | some (.value _) => .error (.notATable key)
    | some (.table implicit dotted entries) =>
      if viaDots && !implicit then .error (.repeatedKey key)
      else do
        let inner ← change viaDots f path ⟨implicit, dotted, entries⟩
        return place.put key (.table inner.implicit inner.dotted inner.entries)
    | some (.tables []) => .error (.notATable key)
    | some (.tables (latest :: earlier)) => do
      let inner ← change viaDots f path ⟨false, false, latest⟩
      return place.put key (.tables (inner.entries :: earlier))

/-- Puts a value behind a key of the table to which a path of dots leads. -/
def addValue (path : List String) (key : String) (v : Value) : Place → Except Error Place :=
  change true (fun place =>
    if place.dotted == path.isEmpty then .error (.repeatedKey key)
    else if (place.entries.lookup key).isSome then .error (.repeatedKey key)
    else .ok (place.put key (.value v))) path

/-- Opens a table by its header. -/
def openTable (path : List String) (key : String) : Place → Except Error Place :=
  change false (fun place =>
    match place.entries.lookup key with
    | none => .ok (place.put key (.table false false []))
    | some (.table true false entries) =>
      .ok (place.put key (.table false false entries))
    | some _ => .error (.repeatedKey key)) path

/-- Opens a further table of an array by its header. -/
def openArrayTable (path : List String) (key : String) : Place → Except Error Place :=
  change false (fun place =>
    match place.entries.lookup key with
    | none => .ok (place.put key (.tables [[]]))
    | some (.tables ts) => .ok (place.put key (.tables ([] :: ts)))
    | some _ => .error (.repeatedKey key)) path

mutual

def toValue : Item → Value
  | .value v => v
  | .table _ _ entries => .table (toTable entries)
  | .tables ts => .array (toTables ts).reverse

def toTable : List (String × Item) → Table
  | [] => []
  | (key, item) :: rest => (key, toValue item) :: toTable rest

def toTables : List (List (String × Item)) → List Value
  | [] => []
  | entries :: rest => .table (toTable entries) :: toTables rest

end

end Item

end DriverValidation.Toml
