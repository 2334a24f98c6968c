import DriverValidation.Duration

/-!
The written form of a span of time: the count of each unit that occurs, from years to nanoseconds,
with spaces between. Years, months and days have names with a plural, the others are short.
-/

namespace DriverValidation.Duration

/-- The count of a unit that is written in full. -/
def longItem (count : Nat) (name : String) : List String :=
  if count == 0 then []
  else if count == 1 then [s!"{count}{name}"]
  else [s!"{count}{name}s"]

/-- The count of a unit that is written in short. -/
def shortItem (count : Nat) (name : String) : List String :=
  if count == 0 then [] else [s!"{count}{name}"]

/-- The counts of the units, largest one first. -/
def items (d : Duration) : List String :=
  let ofYear := d.seconds % 31557600
  let ofMonth := ofYear % 2630016
  let ofDay := ofMonth % 86400
  longItem (d.seconds / 31557600) "year" ++ longItem (ofYear / 2630016) "month" ++
    longItem (ofMonth / 86400) "day" ++ shortItem (ofDay / 3600) "h" ++
    shortItem (ofDay % 3600 / 60) "m" ++ shortItem (ofDay % 60) "s" ++
    shortItem (d.nanos / 1000000) "ms" ++ shortItem (d.nanos / 1000 % 1000) "us" ++
    shortItem (d.nanos % 1000) "ns"

def toText (d : Duration) : String :=
  if d.seconds == 0 && d.nanos == 0 then "0s" else String.intercalate " " d.items

end DriverValidation.Duration
