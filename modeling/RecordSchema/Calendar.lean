/-!
# The calendar

Proleptic Gregorian dates and day counts. A day is located by walking a list of
lengths: years within the 400-year cycle, then months within the year, so the
place found always lies inside its year and month.
-/

namespace RecordSchema

namespace Calendar

def isLeap (year : Int) : Bool := year % 4 == 0 && (year % 100 != 0 || year % 400 == 0)

def yearLength (year : Int) : Nat := if isLeap year then 366 else 365

def monthLengths (year : Int) : List Nat :=
  [31, if isLeap year then 29 else 28, 31, 30, 31, 30, 31, 31, 30, 31, 30, 31]

structure Date where
  year : Int
  month : Nat
  day : Nat
  deriving DecidableEq

/-- A month of the year and a day of that month. -/
def Date.isValid (d : Date) : Bool :=
  match (monthLengths d.year)[d.month - 1]? with
  | some length => 1 ≤ d.month && 1 ≤ d.day && d.day ≤ length
  | none => false

/-- The stretch that holds position `n` of stretches laid end to end, and the
position within it. -/
def locate : List Nat → Nat → Nat × Nat
  | [], n => (0, n)
  | length :: rest, n =>
    if n < length then (0, n)
    else
      let (index, offset) := locate rest (n - length)
      (index + 1, offset)

/-- Days of 400 years, after which the calendar repeats. -/
def cycleLength : Nat := 146097

/-- Days from the first day of year 0 to the first day of 1970. -/
def epochDay : Int := 719528

/-- The date a number of days after the first day of 1970. -/
def Date.ofEpochDay (days : Int) : Date :=
  let fromZero := days + epochDay
  let cycle := fromZero / cycleLength
  let dayOfCycle := (fromZero % cycleLength).toNat
  let (yearOfCycle, dayOfYear) := locate ((List.range 400).map fun y => yearLength (y : Nat)) dayOfCycle
  let year := 400 * cycle + yearOfCycle
  let (month, dayOfMonth) := locate (monthLengths year) dayOfYear
  ⟨year, month + 1, dayOfMonth + 1⟩

/-- A number in decimal with leading zeros. -/
def padded (width n : Nat) : String :=
  let ds := Nat.toDigits 10 n
  String.ofList (List.replicate (width - ds.length) '0' ++ ds)

/-- Four digits for the years 0 to 9999; a sign and at least four digits for others. -/
def yearText (year : Int) : String :=
  if 0 ≤ year ∧ year ≤ 9999 then padded 4 year.natAbs
  else (if year < 0 then "-" else "+") ++ padded 4 year.natAbs

def Date.text (d : Date) : String := yearText d.year ++ "-" ++ padded 2 d.month ++ "-" ++ padded 2 d.day

end Calendar

def nanosPerSecond : Nat := 1000000000

/-- An instant: seconds since the first day of 1970 and nanoseconds. During a leap second the
nanoseconds run on to two thousand million; any second may have one behind it. -/
structure Timestamp where
  seconds : Int
  nanos : Nat
  valid : nanos < 2 * nanosPerSecond
  deriving DecidableEq

namespace Timestamp

def ofUnix? (seconds : Int) (nanos : Nat) : Option Timestamp :=
  if h : nanos < 2 * nanosPerSecond then some ⟨seconds, nanos, h⟩ else none

def date (t : Timestamp) : Calendar.Date := .ofEpochDay (t.seconds / 86400)

/-- The fewest of 0, 3, 6 or 9 digits that are exact, after a point. -/
def fractionText (nanos : Nat) : String :=
  if nanos = 0 then ""
  else if nanos % 1000000 = 0 then "." ++ Calendar.padded 3 (nanos / 1000000)
  else if nanos % 1000 = 0 then "." ++ Calendar.padded 6 (nanos / 1000)
  else "." ++ Calendar.padded 9 nanos

/-- Date and time of day in UTC. A leap second has the number after that of its second, which is 60
at the end of a minute. -/
def text (t : Timestamp) : String :=
  let secondOfDay := (t.seconds % 86400).toNat
  let second := secondOfDay % 60 + t.nanos / nanosPerSecond
  t.date.text ++ "T" ++ Calendar.padded 2 (secondOfDay / 3600) ++ ":"
    ++ Calendar.padded 2 (secondOfDay / 60 % 60) ++ ":" ++ Calendar.padded 2 second
    ++ fractionText (t.nanos % nanosPerSecond) ++ "Z"

end Timestamp

end RecordSchema
