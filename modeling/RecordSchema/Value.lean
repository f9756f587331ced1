import RecordSchema.Calendar
import RecordSchema.Decimal
import RecordSchema.Json.Printer
import RecordSchema.OrderedMap
import RecordSchema.Text.Blank

/-!
# Property values

A value is plain, like a document tree, or one of the store's tagged kinds. A
tag is never inferred: an object with the fields of a geo point is an object.
`toJson` lowers tagged values to the plain ones they stand for.
-/

namespace RecordSchema

-- ---------------------------------------------------------------------------
-- Tagged kinds
-- ---------------------------------------------------------------------------

/-- An integer kept as text, so that it may exceed every native width. -/
structure TaggedInt where
  raw : String
  deriving DecidableEq

/-- A double kept as text. -/
structure TaggedDouble where
  raw : String
  deriving DecidableEq

/-- Degrees of latitude and longitude, any two doubles. The type does not bound them:
`GeoPoint.ofDegrees` does, a decoded point is taken as it is. -/
structure GeoPoint where
  latitude : Binary64
  longitude : Binary64
  deriving DecidableEq

instance : BEq GeoPoint := ⟨fun p q => p.latitude == q.latitude && p.longitude == q.longitude⟩

/-- Why a double cannot become a tagged value. -/
inductive ValueError where
  | latitude (got : Binary64)
  | longitude (got : Binary64)
  | nonFinite (got : Binary64)
  deriving DecidableEq

def ValueError.message : ValueError → String
  | .latitude got => "latitude must be a finite number between -90 and 90, got " ++ got.plainText
  | .longitude got => "longitude must be a finite number between -180 and 180, got " ++ got.plainText
  | .nonFinite got => "double value must be finite, got " ++ got.plainText

/-- Signed 64-bit integers, from `-2⁶³` to `2⁶³ - 1`. -/
def IsInt64 (n : Int) : Prop := -0x8000000000000000 ≤ n ∧ n < 0x8000000000000000

instance (n : Int) : Decidable (IsInt64 n) := by
  unfold IsInt64
  infer_instance

namespace TaggedInt

def ofInt (n : Int) : TaggedInt := ⟨(if n < 0 then "-" else "") ++ Nat.repr n.natAbs⟩

/-- One optional sign and at least one digit, of any width. -/
def isIntegral (x : TaggedInt) : Bool := Decimal.isDigits (Decimal.splitSign x.raw.toList).2

/-- The integer that the text denotes. -/
def value? (x : TaggedInt) : Option Int :=
  let (negative, ds) := Decimal.splitSign x.raw.toList
  if Decimal.isDigits ds then
    some (if negative then -(Decimal.digitsValue ds : Int) else Decimal.digitsValue ds)
  else none

/-- More digits behind a signed 64-bit word, away from zero on the side of the sign: nothing once
a product or a sum leaves the word, or at a character that is no digit. -/
def appendDigits? (negative : Bool) : Int → List Char → Option Int
  | n, [] => some n
  | n, d :: ds =>
    let digit : Int := Decimal.digitsValue [d]
    let next := if negative then 10 * n - digit else 10 * n + digit
    if d.isDigit ∧ IsInt64 (10 * n) ∧ IsInt64 next then appendDigits? negative next ds else none

/-- The text as a signed 64-bit word, read digit by digit. -/
def toInt64? (x : TaggedInt) : Option Int :=
  match Decimal.splitSign x.raw.toList with
  | (_, []) => none
  | (negative, d :: ds) => appendDigits? negative 0 (d :: ds)

end TaggedInt

namespace TaggedDouble

def ofDouble (x : Binary64) : Except ValueError TaggedDouble :=
  match x with
  | .finite y => .ok ⟨y.plainText⟩
  | _ => .error (.nonFinite x)

/-- The finite double that the text denotes, white space at its ends aside. -/
def toFinite? (x : TaggedDouble) : Option Binary64.Finite :=
  (Binary64.ofText? (Text.trim x.raw)).bind Binary64.finite?

end TaggedDouble

namespace GeoPoint

/-- At most this many degrees either way. -/
def within (degrees : Nat) : Binary64 → Option Binary64.Finite
  | .finite x => if x.magnitude ≤ degrees * Binary64.one then some x else none
  | _ => none

def ofDegrees (latitude longitude : Binary64) : Except ValueError GeoPoint :=
  match within 90 latitude with
  | none => .error (.latitude latitude)
  | some lat =>
    match within 180 longitude with
    | none => .error (.longitude longitude)
    | some lng => .ok ⟨.finite lat, .finite lng⟩

def raw (p : GeoPoint) : String := p.latitude.plainText ++ "," ++ p.longitude.plainText

end GeoPoint

-- ---------------------------------------------------------------------------
-- Values
-- ---------------------------------------------------------------------------

inductive Value where
  | null
  | bool (b : Bool)
  | number (n : Number)
  | string (s : String)
  | array (items : List Value)
  | object (fields : List (String × Value))
  | int (x : TaggedInt)
  | double (x : TaggedDouble)
  | geoPoint (p : GeoPoint)
  | buffer (bytes : List UInt8)
  | dateTime (t : Timestamp)
  deriving Inhabited

/-- The data of one entity: property names with their values, in order. -/
abbrev Record := OrderedMap Value

namespace Value

mutual
/-- Equality never crosses kinds and ignores the order of fields. -/
protected def beq : Value → Value → Bool
  | .null, .null => true
  | .bool a, .bool b => a == b
  | .number a, .number b => a == b
  | .string a, .string b => a == b
  | .array xs, .array ys => beqItems xs ys
  | .object xs, .object ys => xs.length == ys.length && beqFields xs ys
  | .int a, .int b => a.raw == b.raw
  | .double a, .double b => a.raw == b.raw
  | .geoPoint a, .geoPoint b => a == b
  | .buffer a, .buffer b => a == b
  | .dateTime a, .dateTime b => a.seconds == b.seconds && a.nanos == b.nanos
  | _, _ => false
def beqItems : List Value → List Value → Bool
  | [], [] => true
  | x :: xs, y :: ys => Value.beq x y && beqItems xs ys
  | _, _ => false
def beqFields : List (String × Value) → List (String × Value) → Bool
  | [], _ => true
  | (key, x) :: xs, ys =>
    (match ys.lookup key with
      | some y => Value.beq x y
      | none => false) && beqFields xs ys
end

instance : BEq Value := ⟨Value.beq⟩

mutual
/-- No object repeats a key, at any depth. -/
def WellFormed : Value → Prop
  | .array items => WellFormedItems items
  | .object fields => (fields.map Prod.fst).Nodup ∧ WellFormedFields fields
  | _ => True
def WellFormedItems : List Value → Prop
  | [] => True
  | item :: rest => item.WellFormed ∧ WellFormedItems rest
def WellFormedFields : List (String × Value) → Prop
  | [] => True
  | (_, value) :: rest => value.WellFormed ∧ WellFormedFields rest
end

mutual
def ofJson : Json → Value
  | .null => .null
  | .bool b => .bool b
  | .number n => .number n
  | .string s => .string s
  | .array items => .array (ofItems items)
  | .object fields => .object (ofFields fields)
def ofItems : List Json → List Value
  | [] => []
  | item :: rest => ofJson item :: ofItems rest
def ofFields : List (String × Json) → List (String × Value)
  | [] => []
  | (key, value) :: rest => (key, ofJson value) :: ofFields rest
end

def typeName : Value → String
  | .null => "null"
  | .bool _ => "boolean"
  | .number _ => "number"
  | .string _ => "string"
  | .array _ => "array"
  | .object _ => "object"
  | .int _ => "int"
  | .double _ => "double"
  | .geoPoint _ => "geoPoint"
  | .buffer _ => "buffer"
  | .dateTime _ => "datetime"

def isNull : Value → Bool
  | .null => true
  | _ => false

def string? : Value → Option String
  | .string s => some s
  | _ => none

/-- The nearest double of a plain number. -/
def double? : Value → Option Binary64
  | .number n => some n.toBinary64
  | _ => none

def items? : Value → Option (List Value)
  | .array items => some items
  | _ => none

def fields? : Value → Option (List (String × Value))
  | .object fields => some fields
  | _ => none

def boolText (b : Bool) : String := if b then "true" else "false"

/-- The text that a rule on texts sees. Null, collections, geo points and
buffers have none. -/
def textForm : Value → Option String
  | .string s => some s
  | .number n => some n.text
  | .bool b => some (boolText b)
  | .int x => some x.raw
  | .double x => some x.raw
  | .dateTime t => some t.text
  | _ => none

end Value

-- ---------------------------------------------------------------------------
-- Lowering
-- ---------------------------------------------------------------------------

/-- The forms of plain data that tagged values are lowered to, of a document tree or of a value. -/
structure PlainForms (α : Type) where
  null : α
  number : Number → α
  string : String → α
  object : List (String × α) → α

def Json.plainForms : PlainForms Json := ⟨.null, .number, .string, .object⟩

def Value.plainForms : PlainForms Value := ⟨.null, .number, .string, .object⟩

section

variable (forms : PlainForms α)

/-- A plain number; a double that is not finite has none and becomes `null`. -/
def Binary64.lower : Binary64 → α
  | .finite x => forms.number (.float x)
  | _ => forms.null

/-- The signed integer when it fits 64 bits, else the text as it is. -/
def TaggedInt.lower (x : TaggedInt) : α :=
  match x.toInt64?.bind Number.ofInt? with
  | some n => forms.number n
  | none => forms.string x.raw

def TaggedDouble.lower (x : TaggedDouble) : α :=
  match x.toFinite? with
  | some y => forms.number (.float y)
  | none => forms.string x.raw

def GeoPoint.lower (p : GeoPoint) : α :=
  forms.object [("latitude", p.latitude.lower forms), ("longitude", p.longitude.lower forms)]

end

def GeoPoint.toJson (p : GeoPoint) : Json := p.lower Json.plainForms

def byteNumber (b : UInt8) : Number :=
  .integer b.toNat ⟨by omega, by have := b.toNat_lt; omega⟩

namespace Value

mutual
def toJson : Value → Json
  | .null => .null
  | .bool b => .bool b
  | .number n => .number n
  | .string s => .string s
  | .array items => .array (itemsToJson items)
  | .object fields => .object (fieldsToJson fields)
  | .int x => x.lower Json.plainForms
  | .double x => x.lower Json.plainForms
  | .geoPoint p => p.toJson
  | .buffer bytes => .array (bytes.map fun b => .number (byteNumber b))
  | .dateTime t => .string t.text
def itemsToJson : List Value → List Json
  | [] => []
  | item :: rest => item.toJson :: itemsToJson rest
def fieldsToJson : List (String × Value) → List (String × Json)
  | [] => []
  | (key, value) :: rest => (key, value.toJson) :: fieldsToJson rest
end

/-- The text shown in messages. -/
def display : Value → String
  | .buffer bytes => "<buffer " ++ Nat.repr bytes.length ++ " bytes>"
  | value => (textForm value).getD value.toJson.text

end Value

/-- The plain value that a tagged one stands for. -/
def TaggedInt.toValue (x : TaggedInt) : Value := x.lower Value.plainForms

def TaggedDouble.toValue (x : TaggedDouble) : Value := x.lower Value.plainForms

def GeoPoint.toValue (p : GeoPoint) : Value := p.lower Value.plainForms

def Value.ofDouble (x : Binary64) : Value := x.lower Value.plainForms

/-- The record of an object; of any other tree, the empty record. -/
def Record.ofJson : Json → Record
  | .object fields => .ofEntries (Value.ofFields fields)
  | _ => ∅

end RecordSchema
