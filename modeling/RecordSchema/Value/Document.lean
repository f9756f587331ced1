import RecordSchema.Json.Reader
import RecordSchema.Value

/-!
# Tagged values in documents

The tagged kinds have record forms of their own, which keep what `Value.toJson` lowers. Other
keys are ignored, and the array form lists exactly the fields.
-/

namespace RecordSchema

open Json (Source)

/-- The text of a record whose only field is a text. -/
def rawOfSource? (source : Source) : Option String := do
  match ← source.slots? ⟨["raw"], false, 1⟩ with
  | [some raw] => raw.string?
  | _ => none

def TaggedInt.ofText? (text : String) : Option TaggedInt := do
  some ⟨← rawOfSource? (← Source.ofText? text)⟩

def TaggedDouble.ofText? (text : String) : Option TaggedDouble := do
  some ⟨← rawOfSource? (← Source.ofText? text)⟩

namespace GeoPoint

def shape : Source.RecordShape := ⟨["latitude", "longitude"], false, 2⟩

/-- The coordinates are taken as they are, within the bounds of `ofDegrees` or not. -/
def ofSource? (source : Source) : Option GeoPoint := do
  match ← source.slots? shape with
  | [some latitude, some longitude] =>
    some ⟨.finite (← latitude.double?), .finite (← longitude.double?)⟩
  | _ => none

/-- The point of a tree. -/
def ofJson? (j : Json) : Option GeoPoint := ofSource? (.ofJson j)

def ofText? (text : String) : Option GeoPoint := do ofSource? (← Source.ofText? text)

end GeoPoint

end RecordSchema
