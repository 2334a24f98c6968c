/-!
Spans of time in seconds and nanoseconds, and their written form: numbers with units, largest unit
first. A month is the twelfth part of a year of 365.25 days, rounded to a whole number of seconds.
-/

namespace DriverValidation

/-- A span of time; the seconds are a number of 64 bits. -/
structure Duration where
  seconds : Nat
  nanos : Nat
  seconds_lt : seconds < 0x10000000000000000 := by decide
  nanos_lt : nanos < 1000000000 := by decide
  deriving Repr, DecidableEq

namespace Duration

def zero : Duration := ⟨0, 0, by decide, by decide⟩

/-- The span of some seconds and nanoseconds, if it is in range. -/
def ofParts? (seconds nanos : Nat) : Option Duration :=
  if h : seconds < 0x10000000000000000 ∧ nanos < 1000000000 then some ⟨seconds, nanos, h.1, h.2⟩ else none

def ofMillis? (millis : Nat) : Option Duration :=
  ofParts? (millis / 1000) (millis % 1000 * 1000000)

def toNanos (d : Duration) : Nat := d.seconds * 1000000000 + d.nanos

inductive Unit where
  | nanosecond
  | microsecond
  | millisecond
  | second
  | minute
  | hour
  | day
  | week
  | month
  | year
  deriving Repr, DecidableEq

namespace Unit

/-- The seconds of a unit, zero for those that are parts of one. -/
def seconds : Unit → Nat
  | nanosecond | microsecond | millisecond => 0
  | second => 1
  | minute => 60
  | hour => 3600
  | day => 86400
  | week => 604800
  | month => 2630016
  | year => 31557600

/-- The nanoseconds of a unit that is a part of a second, zero for the others. -/
def nanos : Unit → Nat
  | nanosecond => 1
  | microsecond => 1000
  | millisecond => 1000000
  | _ => 0

/-- The names by which a unit is read. -/
def names : Unit → List String
  | nanosecond => ["nanos", "nsec", "ns"]
  | microsecond => ["usec", "us", "µs"]
  | millisecond => ["millis", "msec", "ms"]
  | second => ["seconds", "second", "secs", "sec", "s"]
  | minute => ["minutes", "minute", "min", "mins", "m"]
  | hour => ["hours", "hour", "hrs", "hr", "h"]
  | day => ["days", "day", "d"]
  | week => ["weeks", "week", "wks", "wk", "w"]
  | month => ["months", "month", "M"]
  | year => ["years", "year", "yrs", "yr", "y"]

def all : List Unit :=
  [nanosecond, microsecond, millisecond, second, minute, hour, day, week, month, year]

def ofName? (name : String) : Option Unit := all.find? (·.names.contains name)

end Unit

end Duration

end DriverValidation
