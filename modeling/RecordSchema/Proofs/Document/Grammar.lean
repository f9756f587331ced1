import RecordSchema.Proofs.Document.Tree
import RecordSchema.Schema

/-!
# The grammar of schema documents

`Grammar.IsDocument` says which trees declare a schema, with nothing about how they
are decoded: nested records, each of which is an object or an array of its members.
-/

namespace RecordSchema

namespace Grammar

-- ---------------------------------------------------------------------------
-- Forms
-- ---------------------------------------------------------------------------

def IsNullOr (form : Json → Prop) (j : Json) : Prop := j = .null ∨ form j

inductive IsBool : Json → Prop
  | bool : IsBool (.bool b)

inductive IsString : Json → Prop
  | string : IsString (.string s)

inductive IsArrayOf (form : Json → Prop) : Json → Prop
  | array : (∀ item ∈ items, form item) → IsArrayOf form (.array items)

inductive IsMapOf (form : Json → Prop) : Json → Prop
  | object : (∀ field ∈ fields, form field.2) → IsMapOf form (.object fields)

/-- A record of members in order: an object with no other keys, or an array that
leaves out members at its end, but lists so many. -/
inductive IsRecord (members : List (String × (Json → Prop))) (fewest : Nat) : Json → Prop
  | object : (∀ field ∈ fields, ∃ member ∈ members, member.1 = field.1 ∧ member.2 field.2) →
      IsRecord members fewest (.object fields)
  | array : fewest ≤ items.length → items.length ≤ members.length →
      (∀ pair ∈ items.zip members, pair.2.2 pair.1) → IsRecord members fewest (.array items)

-- ---------------------------------------------------------------------------
-- The document
-- ---------------------------------------------------------------------------

inductive IsType : Json → Prop
  | name (t : PropertyType) : IsType (.string t.name)
  | variant (t : PropertyType) : IsType (.object [(t.name, .null)])

/-- A rule by name; or an object that names it, may list arguments, and may have other
keys. -/
inductive IsRule : Json → Prop
  | name : IsRule (.string s)
  | object : ("rule", .string s) ∈ fields →
      (∀ args, ("args", args) ∈ fields → IsArrayOf (fun _ => True) args) → IsRule (.object fields)

def propertyMembers : List (String × (Json → Prop)) :=
  [("type", IsNullOr IsType), ("required", IsBool), ("values", IsNullOr (IsArrayOf fun _ => True)),
    ("validate", IsNullOr IsRule), ("default", fun _ => True)]

def IsProperty : Json → Prop := IsRecord propertyMembers 5

def optionMembers : List (String × (Json → Prop)) := [("explicitOnly", IsBool)]

def IsOptions : Json → Prop := IsRecord optionMembers 0

def documentMembers : List (String × (Json → Prop)) :=
  [("properties", IsMapOf IsProperty), ("options", IsOptions), ("virtuals", IsArrayOf IsString)]

def IsDocument : Json → Prop := IsRecord documentMembers 0

end Grammar

end RecordSchema
