import RecordSchema.Json.Number

/-!
# Document trees

Plain JSON values. Objects list their fields in order; readers produce distinct
keys, which `WellFormed` records. Equality ignores the order of fields.
-/

namespace RecordSchema

inductive Json where
  | null
  | bool (b : Bool)
  | number (n : Number)
  | string (s : String)
  | array (items : List Json)
  | object (fields : List (String × Json))
  deriving Inhabited

namespace Json

mutual
/-- Objects are equal when they have as many fields and each field of the
first has an equal partner under its key in the second. -/
protected def beq : Json → Json → Bool
  | .null, .null => true
  | .bool a, .bool b => a == b
  | .number a, .number b => a == b
  | .string a, .string b => a == b
  | .array xs, .array ys => beqItems xs ys
  | .object xs, .object ys => xs.length == ys.length && beqFields xs ys
  | _, _ => false
def beqItems : List Json → List Json → Bool
  | [], [] => true
  | x :: xs, y :: ys => Json.beq x y && beqItems xs ys
  | _, _ => false
def beqFields : List (String × Json) → List (String × Json) → Bool
  | [], _ => true
  | (key, x) :: xs, ys =>
    (match ys.lookup key with
      | some y => Json.beq x y
      | none => false) && beqFields xs ys
end

instance : BEq Json := ⟨Json.beq⟩

mutual
/-- No object repeats a key, at any depth. -/
def WellFormed : Json → Prop
  | .array items => WellFormedItems items
  | .object fields => (fields.map Prod.fst).Nodup ∧ WellFormedFields fields
  | _ => True
def WellFormedItems : List Json → Prop
  | [] => True
  | item :: rest => item.WellFormed ∧ WellFormedItems rest
def WellFormedFields : List (String × Json) → Prop
  | [] => True
  | (_, value) :: rest => value.WellFormed ∧ WellFormedFields rest
end

/-- The field of an object; nothing for other values. -/
def field? (key : String) : Json → Option Json
  | .object fields => fields.lookup key
  | _ => none

def isContainer : Json → Bool
  | .array _ | .object _ => true
  | _ => false

mutual
/-- Levels of nested arrays and objects. -/
def depth : Json → Nat
  | .array items => depthItems items + 1
  | .object fields => depthFields fields + 1
  | _ => 0
def depthItems : List Json → Nat
  | [] => 0
  | item :: rest => max item.depth (depthItems rest)
def depthFields : List (String × Json) → Nat
  | [] => 0
  | (_, value) :: rest => max value.depth (depthFields rest)
end

end Json

end RecordSchema
