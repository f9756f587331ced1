import RecordSchema.Rule.Library

/-!
# Rules of properties

A rule is a check of the library or a predicate over the whole record. A library
check sees the text of a value, and every element of an array; a value without a
text fails.
-/

namespace RecordSchema

inductive Rule where
  /-- A library check under the name and arguments that it was resolved from. -/
  | named (id : String) (args : List Json) (check : Check)
  | custom (predicate : Record → List Json → Bool) (args : List Json)

namespace Rule

/-- The rule of a registered name. -/
def ofName (id : String) (args : List Json) : Except SchemaError Rule :=
  (Library.resolve id args).map (.named id args)

def name : Rule → String
  | .named id _ _ => id
  | .custom _ _ => "custom"

def args : Rule → List Json
  | .named _ args _ => args
  | .custom _ args => args

/-- The registered name of the check. -/
def checkName? : Rule → Option String
  | .named _ _ check => some check.name
  | .custom _ _ => none

def acceptsText (check : Check) (value : Value) : Bool := value.textForm.any check.accepts

def evaluate (rule : Rule) (value : Value) (data : Record) : Bool :=
  match rule with
  | .named _ _ check =>
    match value with
    | .array items => items.all (acceptsText check)
    | value => acceptsText check value
  | .custom predicate args => predicate data args

/-- A value with a text is no array. -/
theorem evaluate_of_textForm {value : Value} (h : value.textForm = some text) (id : String)
    (args : List Json) (check : Check) (data : Record) :
    (named id args check).evaluate value data = check.accepts text := by
  cases value with
  | array => cases h
  | _ => exact congrArg (Option.any check.accepts) h

end Rule

end RecordSchema
