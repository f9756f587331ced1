import RecordSchema.Json.Printer

/-!
# Defects of schemas

What can be wrong with a schema or its document. These causes arise while a
schema is built or read, never while data is validated.
-/

namespace RecordSchema

/-- Why a rule refuses its arguments. -/
inductive ArgumentError where
  | missing (index : Nat)
  | notScalar (index : Nat) (got : Json)
  | notLength (got : Json)
  | minAboveMax (min max : Nat)
  | version (allowed : List Nat)
  | notOptions
  | flag (c : Char)
  | pattern (text : String)

def ArgumentError.message : ArgumentError → String
  | .missing index => "missing argument " ++ Nat.repr index
  | .notScalar index got =>
    "argument " ++ Nat.repr index ++ " must be a scalar, got " ++ got.text
  | .notLength got => got.text ++ " is not a length"
  | .minAboveMax min max => "min " ++ Nat.repr min ++ " is greater than max " ++ Nat.repr max
  | .version allowed =>
    "version must be one of [" ++ ", ".intercalate (allowed.map Nat.repr) ++ "]"
  | .notOptions => "expected an array of options"
  | .flag c => "unsupported flag '" ++ String.singleton c ++ "'"
  | .pattern text => "invalid pattern '" ++ text ++ "'"

inductive SchemaError where
  | unknownRule (name : String)
  | arguments (rule : String) (cause : ArgumentError)
  | undeclared (property : String)
  /-- The document is not of the form of schemas. -/
  | malformed
  /-- The document cannot be read at all. -/
  | unreadable

def SchemaError.message : SchemaError → String
  | .unknownRule name => "unknown validation rule '" ++ name ++ "'"
  | .arguments rule cause => "invalid arguments for rule '" ++ rule ++ "': " ++ cause.message
  | .undeclared property => "property '" ++ property ++ "' is not declared in the schema"
  | .malformed => "malformed schema document"
  | .unreadable => "failed to read schema document"

end RecordSchema
