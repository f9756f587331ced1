import RecordSchema.Rule

/-!
# Schemas

What is declared of a kind of record: its properties in order, options, and
virtual properties, which validation drops. Schemas grow by the operations here;
only attaching a rule to a property that is not declared can fail.
-/

namespace RecordSchema

inductive PropertyType where
  | string
  | int
  | double
  | boolean
  | buffer
  | array
  | object
  | datetime
  | geoPoint
  deriving DecidableEq

namespace PropertyType

def all : List PropertyType :=
  [.string, .int, .double, .boolean, .buffer, .array, .object, .datetime, .geoPoint]

/-- The name in documents and messages. -/
def name : PropertyType → String
  | .string => "string"
  | .int => "int"
  | .double => "double"
  | .boolean => "boolean"
  | .buffer => "buffer"
  | .array => "array"
  | .object => "object"
  | .datetime => "datetime"
  | .geoPoint => "geoPoint"

def ofName? (name : String) : Option PropertyType := all.find? fun t => t.name == name

theorem ofName?_name (t : PropertyType) : ofName? t.name = some t := by
  cases t <;> decide

end PropertyType

/-- What is declared of one property. Type, values and rule are judged apart
from each other; the default is for writers and is never judged. -/
structure Definition where
  type : Option PropertyType
  required : Bool
  values : Option (List Value)
  rule : Option Rule
  default : Option Value

structure SchemaOptions where
  /-- Refuse keys that are neither declared nor virtual. -/
  explicitOnly : Bool
  deriving DecidableEq

def SchemaOptions.initial : SchemaOptions := ⟨true⟩

structure Schema where
  properties : OrderedMap Definition
  options : SchemaOptions
  virtuals : OrderedMap Unit

namespace Schema

def empty : Schema := ⟨∅, .initial, ∅⟩

/-- Declare a property, or declare it anew in its place. -/
def declare (s : Schema) (name : String) (definition : Definition) : Schema :=
  { s with properties := s.properties.insert name definition }

def declareVirtual (s : Schema) (name : String) : Schema :=
  { s with virtuals := s.virtuals.insert name () }

def withOptions (s : Schema) (options : SchemaOptions) : Schema := { s with options }

def withExplicitOnly (s : Schema) (explicitOnly : Bool) : Schema :=
  s.withOptions { s.options with explicitOnly }

def get? (s : Schema) (name : String) : Option Definition := s.properties.get? name

def isVirtual (s : Schema) (name : String) : Bool := s.virtuals.contains name

/-- Give a declared property another rule. -/
def setRule (s : Schema) (name : String) (rule : Rule) : Except SchemaError Schema :=
  match s.get? name with
  | none => .error (.undeclared name)
  | some definition => .ok (s.declare name { definition with rule := some rule })

end Schema

end RecordSchema
