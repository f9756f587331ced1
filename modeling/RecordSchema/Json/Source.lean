import RecordSchema.Json
import RecordSchema.OrderedMap

/-!
# Documents as written

A source keeps what a tree forgets: repeated keys and leaves that have no value
(a numeral beyond the largest double, a text with half a surrogate pair). Typed
decoders read sources, so they see a repeated key and may skip a leaf without
reading it; `toJson?` reads everything and keeps the last of repeated keys.
-/

namespace RecordSchema

namespace Json

inductive Source where
  | null
  | bool (b : Bool)
  | number (n : Option Number)
  | string (s : Option String)
  | array (items : List Source)
  | object (fields : List (Option String × Source))
  deriving Inhabited

namespace Source

mutual
/-- The plain tree, when every leaf can be read. -/
def toJson? : Source → Option Json
  | .null => some .null
  | .bool b => some (.bool b)
  | .number n => n.map .number
  | .string s => s.map .string
  | .array items => (itemsToJson? items).map .array
  | .object fields => (fieldsToJson? fields).map (fun fs => .object (Entries.collapse fs))
def itemsToJson? : List Source → Option (List Json)
  | [] => some []
  | item :: rest => do
    let value ← item.toJson?
    let values ← itemsToJson? rest
    some (value :: values)
def fieldsToJson? : List (Option String × Source) → Option (List (String × Json))
  | [] => some []
  | (key, item) :: rest => do
    let name ← key
    let value ← item.toJson?
    let values ← fieldsToJson? rest
    some ((name, value) :: values)
end

mutual
def ofJson : Json → Source
  | .null => .null
  | .bool b => .bool b
  | .number n => .number (some n)
  | .string s => .string (some s)
  | .array items => .array (ofItems items)
  | .object fields => .object (ofFields fields)
def ofItems : List Json → List Source
  | [] => []
  | item :: rest => ofJson item :: ofItems rest
def ofFields : List (String × Json) → List (Option String × Source)
  | [] => []
  | (key, value) :: rest => (some key, ofJson value) :: ofFields rest
end

mutual
/-- Levels of nested arrays and objects. -/
def depth : Source → Nat
  | .array items => depthItems items + 1
  | .object fields => depthFields fields + 1
  | _ => 0
def depthItems : List Source → Nat
  | [] => 0
  | item :: rest => max item.depth (depthItems rest)
def depthFields : List (Option String × Source) → Nat
  | [] => 0
  | (_, item) :: rest => max item.depth (depthFields rest)
end

/-- The levels that a document may nest. -/
def maxDepth : Nat := 127

-- ---------------------------------------------------------------------------
-- Leaves
-- ---------------------------------------------------------------------------

def string? : Source → Option String
  | .string s => s
  | _ => none

def bool? : Source → Option Bool
  | .bool b => some b
  | _ => none

def items? : Source → Option (List Source)
  | .array items => some items
  | _ => none

/-- A double, from a numeral of either kind. -/
def double? : Source → Option Binary64.Finite
  | .number (some n) => n.toBinary64.finite?
  | _ => none

/-- The fields of an object whose keys can all be read. -/
def fields? : Source → Option (List (String × Source))
  | .object fields => fields.mapM (fun field => field.1.map (fun key => (key, field.2)))
  | _ => none

/-- `null` is an absent value. -/
def optional (read : Source → Option α) : Source → Option (Option α)
  | .null => some none
  | source => (read source).map some

/-- A name standing alone, or as the only key of an object with the value `null`. -/
def variant? : Source → Option String
  | .string s => s
  | .object [(key, .null)] => key
  | _ => none

-- ---------------------------------------------------------------------------
-- Records with named fields
-- ---------------------------------------------------------------------------

/-- The value of a field written at most once; `none` when it is repeated. -/
def slot? (fields : List (String × Source)) (name : String) : Option (Option Source) :=
  match fields.filter (fun field => field.1 == name) with
  | [] => some none
  | [field] => some (some field.2)
  | _ => none

/-- The shape of a record: its field names in declaration order, whether other
keys are refused, and how many leading fields its array form must list. -/
structure RecordShape where
  names : List String
  closed : Bool
  fewest : Nat

/-- The fields of a record in declaration order: by name from an object, by
position from an array. A field that may be left out is `none`. -/
def slots? (shape : RecordShape) : Source → Option (List (Option Source))
  | .array items =>
    if shape.fewest ≤ items.length ∧ items.length ≤ shape.names.length then
      some (items.map some ++ List.replicate (shape.names.length - items.length) none)
    else none
  | source => do
    let fields ← source.fields?
    if shape.closed && !fields.all (fun field => shape.names.contains field.1) then none
    else shape.names.mapM (slot? fields)

end Source

end Json

end RecordSchema
