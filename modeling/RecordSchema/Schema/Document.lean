import RecordSchema.Json.Reader
import RecordSchema.Schema

/-!
# Schema documents

The form of documents that declare schemas, before their rules are resolved. A
record of the form may be written as an object, where unknown keys are refused,
or as an array of its fields in order.
-/

namespace RecordSchema

open Json (Source)

/-- A rule by name, with its arguments. -/
structure RuleReference where
  id : String
  args : List Json

structure PropertyDocument where
  type : Option PropertyType
  required : Bool
  values : Option (List Json)
  rule : Option RuleReference
  default : Option Json

structure SchemaDocument where
  properties : OrderedMap PropertyDocument
  options : SchemaOptions
  virtuals : List String

-- ---------------------------------------------------------------------------
-- Decoding
-- ---------------------------------------------------------------------------

/-- A field that may be left out. -/
def orDefault (default : α) (read : Source → Option α) : Option Source → Option α
  | none => some default
  | some source => read source

def PropertyType.ofSource? (source : Source) : Option PropertyType :=
  source.variant?.bind PropertyType.ofName?

namespace SchemaOptions

def shape : Source.RecordShape := ⟨["explicitOnly"], true, 0⟩

def ofSource? (source : Source) : Option SchemaOptions := do
  match ← source.slots? shape with
  | [explicitOnly] => some ⟨← orDefault initial.explicitOnly Source.bool? explicitOnly⟩
  | _ => none

def toJson (options : SchemaOptions) : Json := .object [("explicitOnly", .bool options.explicitOnly)]

end SchemaOptions

/-- A name, or an object with a rule, optional arguments and other keys, which
are read and forgotten. -/
def RuleReference.ofSource? : Source → Option RuleReference
  | .string s => s.map fun id => ⟨id, []⟩
  | .object fields => do
    let _ ← (Source.object fields).toJson?
    let named ← (Source.object fields).fields?
    let id ← (← Source.slot? named "rule").bind Source.string?
    let args ← orDefault [] (fun s => s.items?.bind Source.itemsToJson?) (← Source.slot? named "args")
    some ⟨id, args⟩
  | _ => none

namespace PropertyDocument

def shape : Source.RecordShape := ⟨["type", "required", "values", "validate", "default"], true, 5⟩

def ofSource? (source : Source) : Option PropertyDocument := do
  match ← source.slots? shape with
  | [type, required, values, rule, default] =>
    let type ← orDefault none (Source.optional PropertyType.ofSource?) type
    let required ← orDefault false Source.bool? required
    let values ← orDefault none
      (Source.optional fun s => s.items?.bind Source.itemsToJson?) values
    let rule ← orDefault none (Source.optional RuleReference.ofSource?) rule
    let default ← orDefault none (Source.optional Source.toJson?) default
    some ⟨type, required, values, rule, default⟩
  | _ => none

end PropertyDocument

namespace SchemaDocument

def shape : Source.RecordShape := ⟨["properties", "options", "virtuals"], true, 0⟩

/-- Properties by name; of a repeated name each definition must be well-formed,
and the last one counts. -/
def propertiesOfSource? (source : Source) : Option (OrderedMap PropertyDocument) := do
  let fields ← source.fields?
  let entries ← fields.mapM fun field => (PropertyDocument.ofSource? field.2).map (field.1, ·)
  some (.ofEntries entries)

def ofSource? (source : Source) : Option SchemaDocument := do
  match ← source.slots? shape with
  | [properties, options, virtuals] =>
    let properties ← orDefault ∅ propertiesOfSource? properties
    let options ← orDefault .initial SchemaOptions.ofSource? options
    let virtuals ← orDefault [] (fun s => do (← s.items?).mapM Source.string?) virtuals
    some ⟨properties, options, virtuals⟩
  | _ => none

end SchemaDocument

end RecordSchema
