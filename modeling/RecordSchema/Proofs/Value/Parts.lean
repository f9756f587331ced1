import RecordSchema.Value

/-!
# Parts of values

Induction through arrays and objects, and what is asked of the parts of a value at every depth:
that no object repeats a key, that nothing is of a tagged kind (`Plain`), that every coordinate is
a number (`NaNFree`). Document trees become plain values, and whatever keeps the forms of plain
data keeps what tagged values are lowered to (`PlainForms.Keeps`).
-/

namespace RecordSchema

namespace Value

-- ---------------------------------------------------------------------------
-- Induction over values
-- ---------------------------------------------------------------------------

/-- Neither an array nor an object. -/
def IsLeaf : Value → Prop
  | .array _ | .object _ => False
  | _ => True

/-- Induction through the items of arrays and the fields of objects. -/
theorem nested_induction {motive : Value → Prop} (leaf : ∀ v, v.IsLeaf → motive v)
    (array : ∀ items, (∀ item ∈ items, motive item) → motive (.array items))
    (object : ∀ fields, (∀ field ∈ fields, motive field.2) → motive (.object fields))
    (v : Value) : motive v := by
  apply @Value.rec motive (fun items => ∀ item ∈ items, motive item)
    (fun fields => ∀ field ∈ fields, motive field.2) (fun field => motive field.2)
  case array => exact array
  case object => exact object
  case nil => nofun
  case cons => exact fun item rest h hrest => List.forall_mem_cons.mpr ⟨h, hrest⟩
  case nil => nofun
  case cons => exact fun field rest h hrest => List.forall_mem_cons.mpr ⟨h, hrest⟩
  case mk => exact fun _ _ h => h
  all_goals
    intros
    exact leaf _ trivial

theorem wellFormedItems_iff {items : List Value} :
    WellFormedItems items ↔ ∀ item ∈ items, item.WellFormed := by
  induction items with
  | nil => simp [WellFormedItems]
  | cons item rest ih => simp [WellFormedItems, ih]

theorem wellFormedFields_iff {fields : List (String × Value)} :
    WellFormedFields fields ↔ ∀ field ∈ fields, field.2.WellFormed := by
  induction fields with
  | nil => simp [WellFormedFields]
  | cons field rest ih => simp [WellFormedFields, ih]

theorem wellFormed_array_iff :
    (Value.array items).WellFormed ↔ ∀ item ∈ items, item.WellFormed :=
  wellFormedItems_iff

theorem wellFormed_object_iff :
    (Value.object fields).WellFormed ↔
      (fields.map Prod.fst).Nodup ∧ ∀ field ∈ fields, field.2.WellFormed := by
  rw [WellFormed, wellFormedFields_iff]

-- ---------------------------------------------------------------------------
-- What occurs at any depth
-- ---------------------------------------------------------------------------

/-- The value itself or a part of it, at any depth. -/
inductive OccursIn : Value → Value → Prop
  | self (v : Value) : OccursIn v v
  | item (hmem : x ∈ items) (h : OccursIn part x) : OccursIn part (.array items)
  | field (hmem : (key, x) ∈ fields) (h : OccursIn part x) : OccursIn part (.object fields)

/-- No part is one of these. -/
def FreeOf (P : Value → Prop) (v : Value) : Prop := ∀ part, OccursIn part v → ¬ P part

section

variable {P : Value → Prop}

theorem freeOf_of_isLeaf {v : Value} (hleaf : v.IsLeaf) (h : ¬ P v) : v.FreeOf P := by
  intro part hpart
  cases hpart with
  | self => exact h
  | item | field => exact hleaf.elim

theorem freeOf_array_iff (h : ¬ P (.array items)) :
    (Value.array items).FreeOf P ↔ ∀ item ∈ items, item.FreeOf P := by
  constructor
  · exact fun harray item hitem part hpart => harray part (.item hitem hpart)
  · intro hitems part hpart
    cases hpart with
    | self => exact h
    | item hmem hpart => exact hitems _ hmem part hpart

theorem freeOf_object_iff (h : ¬ P (.object fields)) :
    (Value.object fields).FreeOf P ↔ ∀ field ∈ fields, field.2.FreeOf P := by
  constructor
  · exact fun hobject field hfield part hpart => hobject part (.field hfield hpart)
  · intro hfields part hpart
    cases hpart with
    | self => exact h
    | field hmem hpart => exact hfields _ hmem part hpart

end

/-- Of a kind that document trees do not have. -/
def IsTagged : Value → Prop
  | .int _ | .double _ | .geoPoint _ | .buffer _ | .dateTime _ => True
  | _ => False

/-- A point with a coordinate that is not a number. -/
def HasNaN : Value → Prop
  | .geoPoint p => p.latitude = .nan ∨ p.longitude = .nan
  | _ => False

/-- Nothing tagged occurs. -/
def Plain (v : Value) : Prop := v.FreeOf IsTagged

/-- No point that occurs has a coordinate that is not a number. -/
def NaNFree (v : Value) : Prop := v.FreeOf HasNaN

theorem isTagged_of_hasNaN {v : Value} (h : v.HasNaN) : v.IsTagged := by
  cases v with
  | geoPoint p => trivial
  | _ => exact h.elim

theorem Plain.nanFree {v : Value} (h : v.Plain) : v.NaNFree :=
  fun part hpart hnan => h part hpart (isTagged_of_hasNaN hnan)

theorem plain_array_iff : (Value.array items).Plain ↔ ∀ item ∈ items, item.Plain :=
  freeOf_array_iff id

theorem plain_object_iff : (Value.object fields).Plain ↔ ∀ field ∈ fields, field.2.Plain :=
  freeOf_object_iff id

theorem nanFree_array_iff : (Value.array items).NaNFree ↔ ∀ item ∈ items, item.NaNFree :=
  freeOf_array_iff id

theorem nanFree_object_iff : (Value.object fields).NaNFree ↔ ∀ field ∈ fields, field.2.NaNFree :=
  freeOf_object_iff id

-- ---------------------------------------------------------------------------
-- Trees and values item by item
-- ---------------------------------------------------------------------------

theorem ofItems_eq_map (items : List Json) : ofItems items = items.map ofJson := by
  induction items with
  | nil => rfl
  | cons item rest ih => rw [ofItems, ih, List.map_cons]

theorem ofFields_eq_map (fields : List (String × Json)) :
    ofFields fields = fields.map fun field => (field.1, ofJson field.2) := by
  induction fields with
  | nil => rfl
  | cons field rest ih => rw [ofFields, ih, List.map_cons]

theorem itemsToJson_eq_map (items : List Value) : itemsToJson items = items.map toJson := by
  induction items with
  | nil => rfl
  | cons item rest ih => rw [itemsToJson, ih, List.map_cons]

theorem fieldsToJson_eq_map (fields : List (String × Value)) :
    fieldsToJson fields = fields.map fun field => (field.1, field.2.toJson) := by
  induction fields with
  | nil => rfl
  | cons field rest ih => rw [fieldsToJson, ih, List.map_cons]

theorem ofJson_toJson_array (items : List Value) :
    ofJson (Value.array items).toJson = .array (items.map fun item => ofJson item.toJson) := by
  rw [toJson, ofJson, itemsToJson_eq_map, ofItems_eq_map, List.map_map]
  rfl

theorem ofJson_toJson_object (fields : List (String × Value)) :
    ofJson (Value.object fields).toJson =
      .object (fields.map fun field => (field.1, ofJson field.2.toJson)) := by
  rw [toJson, ofJson, fieldsToJson_eq_map, ofFields_eq_map, List.map_map]
  rfl

mutual
theorem plain_ofJson : (j : Json) → (ofJson j).Plain
  | .null | .bool _ | .number _ | .string _ => freeOf_of_isLeaf trivial id
  | .array items => plain_array_iff.mpr (plain_ofItems items)
  | .object fields => plain_object_iff.mpr (plain_ofFields fields)
theorem plain_ofItems : (items : List Json) → ∀ item ∈ ofItems items, item.Plain
  | [] => nofun
  | item :: rest => List.forall_mem_cons.mpr ⟨plain_ofJson item, plain_ofItems rest⟩
theorem plain_ofFields : (fields : List (String × Json)) → ∀ field ∈ ofFields fields, field.2.Plain
  | [] => nofun
  | (_, value) :: rest => List.forall_mem_cons.mpr ⟨plain_ofJson value, plain_ofFields rest⟩
end

end Value

-- ---------------------------------------------------------------------------
-- What tagged values are lowered to
-- ---------------------------------------------------------------------------

/-- Both coordinates are finite. -/
def GeoPoint.IsFinite (p : GeoPoint) : Prop :=
  (∃ x, p.latitude = .finite x) ∧ ∃ y, p.longitude = .finite y

namespace PlainForms

/-- A translation that keeps the forms of plain data. -/
structure Keeps (forms : PlainForms α) (others : PlainForms β) (f : α → β) : Prop where
  null : f forms.null = others.null
  number n : f (forms.number n) = others.number n
  string s : f (forms.string s) = others.string s
  object fields :
    f (forms.object fields) = others.object (fields.map fun field => (field.1, f field.2))

section

variable {forms : PlainForms α} {others : PlainForms β} (h : forms.Keeps others f)
include h

theorem Keeps.binary64 (x : Binary64) : f (x.lower forms) = x.lower others := by
  cases x with
  | finite y => exact h.number _
  | infinite | nan => exact h.null

theorem Keeps.taggedInt (x : TaggedInt) : f (x.lower forms) = x.lower others := by
  rw [TaggedInt.lower, TaggedInt.lower]
  cases x.toInt64?.bind Number.ofInt? with
  | some n => exact h.number n
  | none => exact h.string x.raw

theorem Keeps.taggedDouble (x : TaggedDouble) : f (x.lower forms) = x.lower others := by
  rw [TaggedDouble.lower, TaggedDouble.lower]
  cases x.toFinite? with
  | some y => exact h.number _
  | none => exact h.string x.raw

theorem Keeps.geoPoint (p : GeoPoint) : f (p.lower forms) = p.lower others := by
  rw [GeoPoint.lower, GeoPoint.lower, h.object, List.map_cons, List.map_cons, List.map_nil,
    h.binary64, h.binary64]

end

end PlainForms

theorem Value.ofJson_keeps : Json.plainForms.Keeps Value.plainForms Value.ofJson where
  null := rfl
  number _ := rfl
  string _ := rfl
  object fields := congrArg Value.object (ofFields_eq_map fields)

theorem Value.toJson_keeps : Value.plainForms.Keeps Json.plainForms Value.toJson where
  null := rfl
  number _ := rfl
  string _ := rfl
  object fields := congrArg Json.object (fieldsToJson_eq_map fields)

end RecordSchema
