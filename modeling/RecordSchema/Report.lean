import RecordSchema.Json.Printer
import RecordSchema.Json.Reader
import RecordSchema.OrderedMap

/-!
# Validation reports

Violations in the order in which they were found, and the kind of record they
were found in. Reports have a document form, which is read back by `ofSource?`;
the joined message is written and not kept.
-/

namespace RecordSchema

open Json (Source)

inductive ViolationCode where
  | wrongType
  | wrongValue
  | notAllowed
  | required
  | outOfRange
  deriving DecidableEq

namespace ViolationCode

def all : List ViolationCode := [.wrongType, .wrongValue, .notAllowed, .required, .outOfRange]

def text : ViolationCode → String
  | .wrongType => "ERR_PROP_TYPE"
  | .wrongValue => "ERR_PROP_VALUE"
  | .notAllowed => "ERR_PROP_NOT_ALLOWED"
  | .required => "ERR_PROP_REQUIRED"
  | .outOfRange => "ERR_PROP_IN_RANGE"

def ofText? (text : String) : Option ViolationCode := all.find? fun c => c.text == text

theorem ofText?_text (c : ViolationCode) : ofText? c.text = some c := by
  cases c <;> decide

def ofSource? (source : Source) : Option ViolationCode := source.variant?.bind ofText?

end ViolationCode

/-- One check that one property failed. The details have no order of their own. -/
structure Violation where
  code : ViolationCode
  property : String
  message : String
  params : OrderedMap Json

namespace Violation

def new (code : ViolationCode) (property message : String) : Violation :=
  ⟨code, property, message, ∅⟩

def withParam (v : Violation) (key : String) (value : Json) : Violation :=
  { v with params := v.params.insert key value }

/-- Details are equal in any order. -/
instance : BEq Violation :=
  ⟨fun v w => v.code == w.code && v.property == w.property && v.message == w.message
    && Json.object v.params.entries == Json.object w.params.entries⟩

def display (v : Violation) : String := "[" ++ v.code.text ++ "] " ++ v.message

/-- Empty details are left out. -/
def toJson (v : Violation) : Json :=
  .object ([("code", .string v.code.text), ("property", .string v.property),
      ("message", .string v.message)]
    ++ if v.params.entries.isEmpty then [] else [("params", .object v.params.entries)])

def shape : Source.RecordShape := ⟨["code", "property", "message", "params"], false, 3⟩

/-- Details by name; values nest at most `room` levels. -/
def paramsOfSource? (room : Nat) (source : Source) : Option (OrderedMap Json) := do
  let fields ← source.fields?
  let entries ← fields.mapM fun field =>
    if field.2.depth ≤ room then field.2.toJson?.map (field.1, ·) else none
  some (.ofEntries entries)

/-- A violation whose details nest at most `room` levels. -/
def ofSource? (room : Nat) (source : Source) : Option Violation := do
  match ← source.slots? shape with
  | [some code, some property, some message, params] =>
    let code ← ViolationCode.ofSource? code
    let property ← property.string?
    let message ← message.string?
    let params ← match params with
      | some p => paramsOfSource? room p
      | none => some ∅
    some ⟨code, property, message, params⟩
  | _ => none

def ofText? (text : String) : Option Violation := do
  ofSource? (Source.maxDepth - 2) (← Source.ofText? text)

end Violation

structure Report where
  kind : String
  violations : List Violation

namespace Report

instance : BEq Report := ⟨fun r s => r.violations == s.violations && r.kind == s.kind⟩

def empty : Report := ⟨"", []⟩

def isEmpty (r : Report) : Bool := r.violations.isEmpty

def size (r : Report) : Nat := r.violations.length

def add (r : Report) (v : Violation) : Report := { r with violations := r.violations ++ [v] }

def withCode (r : Report) (code : ViolationCode) : List Violation :=
  r.violations.filter fun v => v.code == code

def ofProperty (r : Report) (property : String) : List Violation :=
  r.violations.filter fun v => v.property == property

def codes (r : Report) : List ViolationCode := r.violations.map Violation.code

/-- The messages, one on each line. -/
def message (r : Report) : String := "\n".intercalate (r.violations.map Violation.message)

/-- No report when there is nothing to report. -/
def nonempty? (r : Report) : Option Report := if r.isEmpty then none else some r

def toJson (r : Report) : Json :=
  .object [("error", .object [
    ("type", .string "validation_error"),
    ("kind", .string r.kind),
    ("message", .string r.message),
    ("errors", .array (r.violations.map Violation.toJson))])]

def wrapperShape : Source.RecordShape := ⟨["error"], false, 1⟩

def bodyShape : Source.RecordShape := ⟨["type", "kind", "message", "errors"], false, 4⟩

/-- A report whose details nest at most `room` levels. -/
def ofSource? (room : Nat) (source : Source) : Option Report := do
  match ← source.slots? wrapperShape with
  | [some body] =>
    match ← body.slots? bodyShape with
    | [some type, some kind, some message, some errors] =>
      let _ ← type.string?
      let kind ← kind.string?
      let _ ← message.string?
      let violations ← (← errors.items?).mapM (Violation.ofSource? room)
      some ⟨kind, violations⟩
    | _ => none
  | _ => none

/-- The report of a tree. -/
def ofJson? (j : Json) : Option Report := ofSource? j.depth (.ofJson j)

def ofText? (text : String) : Option Report := do
  ofSource? (Source.maxDepth - 5) (← Source.ofText? text)

end Report

end RecordSchema
