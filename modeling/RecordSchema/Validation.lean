import RecordSchema.Report
import RecordSchema.Schema

/-!
# Validation

A record is judged against a schema in one pass: virtual properties are dropped,
then each key in the record's order, then the declared properties that are
required and missing, in the schema's order. Every violation is reported.
-/

namespace RecordSchema

-- ---------------------------------------------------------------------------
-- Judging one value
-- ---------------------------------------------------------------------------

/-- Null and texts of white space count as no value. -/
def Value.isBlank : Value → Bool
  | .null => true
  | .string s => Text.isAllBlank s
  | _ => false

/-- `dddd-dd-dd` in ASCII digits, whether or not there is such a day. -/
def isDateText (s : String) : Bool :=
  match s.toList with
  | [a, b, c, d, '-', e, f, '-', g, h] => [a, b, c, d, e, f, g, h].all Char.isDigit
  | _ => false

/-- An integer, or a double without a fraction. -/
def Number.isWhole : Number → Bool
  | .integer _ _ => true
  | .float x => x.isWhole

/-- A number, or a text of a finite double. -/
def isCoordinate : Option Value → Bool
  | some (.number _) => true
  | some (.string s) => ((Binary64.ofText? (Text.trim s)).bind Binary64.finite?).isSome
  | _ => false

/-- Whether a value has the form that a type asks for. -/
def PropertyType.admits : PropertyType → Value → Bool
  | .string, .string _ => true
  | .int, .number n => n.isWhole
  | .int, .int x => x.isIntegral
  | .double, .number _ => true
  | .double, .double x => x.toFinite?.isSome
  | .boolean, .bool _ => true
  | .buffer, .buffer _ => true
  | .array, .array _ => true
  | .object, .object _ => true
  | .datetime, .dateTime _ => true
  | .datetime, .string s => isDateText s
  | .geoPoint, .geoPoint _ => true
  | .geoPoint, .object fields =>
    isCoordinate (fields.lookup "latitude") && isCoordinate (fields.lookup "longitude")
  | _, _ => false

/-- Numbers of one value. Integers compare exactly; a double compares with the
double nearest to the other number. -/
def Number.denotesSame (a b : Number) : Bool :=
  match a.toSigned?, b.toSigned? with
  | some m, some n => m == n
  | _, _ =>
    match a.toUnsigned?, b.toUnsigned? with
    | some m, some n => m == n
    | _, _ =>
      match a.toBinary64.finite?, b.toBinary64.finite? with
      | some x, some y => x == y
      | _, _ => false

def sameMember : Value → Value → Bool
  | .number a, .number b => a.denotesSame b
  | a, b => a == b

/-- Membership in an allow-list. -/
def isAllowed (allowed : List Value) (value : Value) : Bool :=
  allowed.any fun candidate => sameMember candidate value

-- ---------------------------------------------------------------------------
-- Violations
-- ---------------------------------------------------------------------------

namespace Violation

def article (noun : String) : String :=
  if noun.toList.head?.any (['a', 'e', 'i', 'o', 'u'].contains ·) then "an" else "a"

def wrongType (property : String) (expected : PropertyType) (got : Value) : Violation :=
  new .wrongType property
      ("Property \"" ++ property ++ "\" must be " ++ article expected.name ++ " " ++ expected.name ++ ".")
    |>.withParam "expected" (.string expected.name)
    |>.withParam "actual" (.string got.typeName)

def wrongValue (property : String) (got : Value) (rule : String) : Violation :=
  new .wrongValue property
      ("\"" ++ got.display ++ "\" is not a valid value for property \"" ++ property ++ "\".")
    |>.withParam "rule" (.string rule)

def notAllowed (property kind : String) : Violation :=
  new .notAllowed property
    ("Property \"" ++ property ++ "\" is not allowed for entityKind \"" ++ kind ++ "\".")

def required (property : String) : Violation :=
  new .required property
    ("Property \"" ++ property ++ "\" is required but no value has been set.")

def outOfRange (property : String) (allowed : List Value) : Violation :=
  new .outOfRange property
      ("Property \"" ++ property ++ "\" must be one of ["
        ++ ", ".intercalate (allowed.map Value.display) ++ "].")
    |>.withParam "values" (.array (allowed.map Value.toJson))

end Violation

-- ---------------------------------------------------------------------------
-- The pass
-- ---------------------------------------------------------------------------

/-- The record without its virtual properties. -/
def Schema.strip (s : Schema) (data : Record) : Record :=
  data.filterKeys fun name => !s.isVirtual name

namespace Definition

def typeViolation? (d : Definition) (name : String) (value : Value) : Option Violation :=
  d.type.bind fun t => if t.admits value then none else some (.wrongType name t value)

def rangeViolation? (d : Definition) (name : String) (value : Value) : Option Violation :=
  d.values.bind fun allowed =>
    if isAllowed allowed value then none else some (.outOfRange name allowed)

def ruleViolation? (d : Definition) (name : String) (value : Value) (data : Record) :
    Option Violation :=
  d.rule.bind fun rule =>
    if rule.evaluate value data then none else some (.wrongValue name value rule.name)

/-- What is wrong with the value of a declared property. A blank value can only
be missing. -/
def violations (d : Definition) (name : String) (value : Value) (data : Record) :
    List Violation :=
  if value.isBlank then if d.required then [.required name] else []
  else
    (d.typeViolation? name value).toList ++ (d.rangeViolation? name value).toList
      ++ (d.ruleViolation? name value data).toList

end Definition

namespace Schema

/-- What is wrong with one entry of a record. -/
def entryViolations (s : Schema) (kind : String) (data : Record) (entry : String × Value) :
    List Violation :=
  match s.get? entry.1 with
  | some d => d.violations entry.1 entry.2 data
  | none => if s.options.explicitOnly then [.notAllowed entry.1 kind] else []

/-- A declared property that is required, not virtual, and has no entry. -/
def missingViolation? (s : Schema) (data : Record) (entry : String × Definition) :
    Option Violation :=
  if entry.2.required && !s.isVirtual entry.1 && !data.contains entry.1 then
    some (.required entry.1)
  else none

/-- All violations of a record whose virtual properties are dropped. -/
def collect (s : Schema) (kind : String) (data : Record) : List Violation :=
  data.entries.flatMap (s.entryViolations kind data)
    ++ s.properties.entries.filterMap (s.missingViolation? data)

end Schema

/-- The outcome of a pass: the record as it is left, and the report, if any. -/
structure Outcome where
  value : Record
  report : Option Report

namespace Outcome

def isValid (o : Outcome) : Bool := o.report.isNone

/-- The record, or else the report. -/
def toExcept (o : Outcome) : Except Report Record :=
  match o.report with
  | some report => .error report
  | none => .ok o.value

end Outcome

def Schema.validate (s : Schema) (kind : String) (data : Record) : Outcome :=
  let value := s.strip data
  ⟨value, (Report.mk kind (s.collect kind value)).nonempty?⟩

/-- A schema bound to the kind of record that it judges. -/
structure Validator where
  schema : Schema
  kind : String

def Validator.validate (v : Validator) (data : Record) : Outcome := v.schema.validate v.kind data

end RecordSchema
