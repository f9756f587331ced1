import RecordSchema.Schema.Document

/-!
# Loading schemas

From a document to a schema: the whole document is decoded first, then the rules
are resolved in the order of the properties, and the first defect ends it.
-/

namespace RecordSchema

open Json (Source)

def RuleReference.resolve (r : RuleReference) : Except SchemaError Rule :=
  Rule.ofName r.id r.args

def PropertyDocument.resolve (p : PropertyDocument) : Except SchemaError Definition := do
  let rule ← p.rule.mapM RuleReference.resolve
  return ⟨p.type, p.required, p.values.map fun vs => vs.map Value.ofJson, rule, p.default.map Value.ofJson⟩

def SchemaDocument.resolve (d : SchemaDocument) : Except SchemaError Schema := do
  let declared ← d.properties.entries.foldlM
    (fun s entry => return s.declare entry.1 (← entry.2.resolve))
    (Schema.empty.withOptions d.options)
  return d.virtuals.foldl Schema.declareVirtual declared

namespace Schema

def ofSource (source : Source) : Except SchemaError Schema :=
  match SchemaDocument.ofSource? source with
  | some document => document.resolve
  | none => .error .malformed

/-- The schema of a tree. -/
def ofJson (j : Json) : Except SchemaError Schema := ofSource (.ofJson j)

/-- The schema of a document text. -/
def ofText (text : String) : Except SchemaError Schema :=
  match Source.ofText? text with
  | some source => if source.depth ≤ Source.maxDepth then ofSource source else .error .malformed
  | none => .error .malformed

/-- The schema of a document in UTF-8. -/
def ofBytes (bytes : ByteArray) : Except SchemaError Schema :=
  match String.fromUTF8? bytes with
  | some text => ofText text
  | none => .error .malformed

/-- The schema of a file; `none` when there is no file to read. -/
def ofFile (content : Option ByteArray) : Except SchemaError Schema :=
  match content with
  | some bytes => ofBytes bytes
  | none => .error .unreadable

end Schema

end RecordSchema
