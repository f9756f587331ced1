import RecordSchema.Calendar
import RecordSchema.Decimal
import RecordSchema.Text.Blank

/-!
# ISO 8601 dates and times

Three forms: a date and time with an offset in fields of fixed width, a date and
time without one, and a date. In the last two, fields may be shorter than their
width and follow white space. Dates must exist; second 60 is admitted.
-/

namespace RecordSchema

namespace Iso8601

-- ---------------------------------------------------------------------------
-- Fixed fields
-- ---------------------------------------------------------------------------

/-- A number of exactly `width` digits. -/
def fixed? (width : Nat) (cs : List Char) : Option (Nat × List Char) :=
  let ds := cs.take width
  if ds.length == width && ds.all Char.isDigit then some (Decimal.digitsValue ds, cs.drop width)
  else none

def mark? (accepts : Char → Bool) : List Char → Option (List Char)
  | c :: rest => if accepts c then some rest else none
  | [] => none

/-- An optional point with at least one digit. -/
def skipFraction? : List Char → Option (List Char)
  | '.' :: rest =>
    if rest.head?.any Char.isDigit then some (rest.dropWhile Char.isDigit) else none
  | cs => some cs

/-- `Z`, or a sign, hours and minutes. -/
def isOffset (cs : List Char) : Bool :=
  match cs with
  | ['Z'] | ['z'] => true
  | sign :: rest =>
    (sign == '+' || sign == '-' || sign == '−')
      && (do
        let (hours, rest) ← fixed? 2 rest
        let rest ← mark? (· == ':') rest
        let (minutes, rest) ← fixed? 2 rest
        some (hours ≤ 23 && minutes ≤ 59 && rest.isEmpty)).getD false
  | [] => false

def isTime (hour minute second : Nat) : Bool := hour ≤ 23 && minute ≤ 59 && second ≤ 60

/-- Date, `T` or a space, time and offset. -/
def isOffsetDateTime (cs : List Char) : Bool :=
  (do
    let (year, cs) ← fixed? 4 cs
    let (month, cs) ← fixed? 2 (← mark? (· == '-') cs)
    let (day, cs) ← fixed? 2 (← mark? (· == '-') cs)
    let cs ← mark? (fun c => c == 'T' || c == 't' || c == ' ') cs
    let (hour, cs) ← fixed? 2 cs
    let (minute, cs) ← fixed? 2 (← mark? (· == ':') cs)
    let (second, cs) ← fixed? 2 (← mark? (· == ':') cs)
    let cs ← skipFraction? cs
    some ((Calendar.Date.mk year month day).isValid && isTime hour minute second
      && isOffset cs)).getD false

-- ---------------------------------------------------------------------------
-- Loose fields
-- ---------------------------------------------------------------------------

/-- A number of 1 to `width` digits after white space. -/
def loose? (width : Nat) (cs : List Char) : Option (Nat × List Char) :=
  let cs := cs.dropWhile Text.isBlank
  let ds := (cs.take width).takeWhile Char.isDigit
  if ds.isEmpty then none else some (Decimal.digitsValue ds, cs.drop ds.length)

/-- Up to four digits, or a sign and any number of them. -/
def year? (cs : List Char) : Option (Int × List Char) :=
  let cs := cs.dropWhile Text.isBlank
  match cs with
  | '-' :: rest => (loose? rest.length rest).bind fun (n, after) =>
    if rest.head?.any Char.isDigit then some (-(n : Int), after) else none
  | '+' :: rest => (loose? rest.length rest).bind fun (n, after) =>
    if rest.head?.any Char.isDigit then some ((n : Int), after) else none
  | cs => (loose? 4 cs).map fun (n, after) => ((n : Int), after)

/-- The years that dates may have. -/
def isYear (year : Int) : Bool := -262143 ≤ year && year ≤ 262142

def date? (cs : List Char) : Option (Calendar.Date × List Char) := do
  let (year, cs) ← year? cs
  let (month, cs) ← loose? 2 (← mark? (· == '-') cs)
  let (day, cs) ← loose? 2 (← mark? (· == '-') cs)
  let date := Calendar.Date.mk year month day
  if isYear year && date.isValid then some (date, cs) else none

def isDate (cs : List Char) : Bool :=
  match date? cs with
  | some (_, rest) => rest.isEmpty
  | none => false

def isLocalDateTime (cs : List Char) : Bool :=
  (do
    let (_, cs) ← date? cs
    let (hour, cs) ← loose? 2 (← mark? (· == 'T') cs)
    let (minute, cs) ← loose? 2 (← mark? (· == ':') cs)
    let (second, cs) ← loose? 2 (← mark? (· == ':') cs)
    let cs ← skipFraction? cs
    some (isTime hour minute second && cs.isEmpty)).getD false

def accepts (cs : List Char) : Bool := isOffsetDateTime cs || isLocalDateTime cs || isDate cs

end Iso8601

end RecordSchema
