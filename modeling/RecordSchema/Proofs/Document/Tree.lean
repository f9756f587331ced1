import RecordSchema.Json.Source
import RecordSchema.Proofs.OrderedMap

/-!
# Trees as sources

A source made from a tree reads back as that tree (`toJson?_ofJson`), and a record in it
has the fields that the tree has: `slots?_object` by name, `slots?_array` by position.
-/

namespace RecordSchema

theorem isSome_mapM {f : α → Option β} {l : List α} :
    (l.mapM f).isSome = true ↔ ∀ a ∈ l, (f a).isSome = true := by
  induction l with
  | nil => simp
  | cons a rest ih =>
    rw [List.mapM_cons, List.forall_mem_cons, ← ih]
    cases f a with
    | none => simp
    | some b => cases rest.mapM f <;> simp

theorem mapM_eq_some_iff {f : α → Option β} {xs : List α} {ys : List β} :
    xs.mapM f = some ys ↔ List.Forall₂ (fun x y => f x = some y) xs ys := by
  induction xs generalizing ys with
  | nil => simp [eq_comm]
  | cons x rest ih =>
    simp only [List.mapM_cons, Option.bind_eq_bind, Option.bind_eq_some_iff, Option.pure_def,
      Option.some.injEq, List.forall₂_cons_left_iff, ← ih]
    constructor
    · rintro ⟨y, hy, others, hothers, rfl⟩
      exact ⟨y, others, hy, hothers, rfl⟩
    · rintro ⟨y, others, hy, hothers, rfl⟩
      exact ⟨y, hy, others, hothers, rfl⟩

/-- Values read one by one, under their keys. -/
theorem mapM_values_eq_some_iff {f : α → Option β} {xs : List (String × α)}
    {ys : List (String × β)} :
    (xs.mapM fun x => (f x.2).map (x.1, ·)) = some ys ↔
      Entries.Related (fun x y => f x = some y) xs ys := by
  have hentry : ∀ (x : String × α) (y : String × β),
      (f x.2).map (x.1, ·) = some y ↔ x.1 = y.1 ∧ f x.2 = some y.2 := by
    rintro ⟨key, x⟩ ⟨other, y⟩
    simp [and_comm]
  simp only [mapM_eq_some_iff, hentry, Entries.Related]

namespace Json

theorem wellFormedItems_iff {items : List Json} :
    WellFormedItems items ↔ ∀ item ∈ items, item.WellFormed := by
  induction items with
  | nil => simp [WellFormedItems]
  | cons item rest ih => simp [WellFormedItems, ih]

theorem wellFormedFields_iff {fields : List (String × Json)} :
    WellFormedFields fields ↔ ∀ field ∈ fields, field.2.WellFormed := by
  induction fields with
  | nil => simp [WellFormedFields]
  | cons field rest ih => simp [WellFormedFields, ih]

namespace Source

theorem ofItems_eq_map (items : List Json) : ofItems items = items.map ofJson := by
  induction items with
  | nil => rfl
  | cons item rest ih => rw [ofItems, ih, List.map_cons]

theorem ofFields_eq_map (fields : List (String × Json)) :
    ofFields fields = fields.map fun field => (some field.1, ofJson field.2) := by
  induction fields with
  | nil => rfl
  | cons field rest ih => rw [ofFields, ih, List.map_cons]

-- ---------------------------------------------------------------------------
-- Reading everything
-- ---------------------------------------------------------------------------

mutual
theorem toJson?_ofJson : (j : Json) → j.WellFormed → (ofJson j).toJson? = some j
  | .null, _ => rfl
  | .bool _, _ => rfl
  | .number _, _ => rfl
  | .string _, _ => rfl
  | .array items, h => by
    rw [ofJson, toJson?, itemsToJson?_ofItems items h]
    rfl
  | .object fields, h => by
    rw [ofJson, toJson?, fieldsToJson?_ofFields fields h.2, Option.map_some,
      Entries.collapse_of_nodup h.1]
theorem itemsToJson?_ofItems : (items : List Json) → WellFormedItems items →
    itemsToJson? (ofItems items) = some items
  | [], _ => rfl
  | item :: rest, h => by
    rw [ofItems, itemsToJson?, toJson?_ofJson item h.1, itemsToJson?_ofItems rest h.2]
    rfl
theorem fieldsToJson?_ofFields : (fields : List (String × Json)) → WellFormedFields fields →
    fieldsToJson? (ofFields fields) = some fields
  | [], _ => rfl
  | (key, value) :: rest, h => by
    rw [ofFields, fieldsToJson?, toJson?_ofJson value h.1, fieldsToJson?_ofFields rest h.2]
    rfl
end

theorem itemsToJson?_eq_mapM (items : List Source) : itemsToJson? items = items.mapM toJson? := by
  induction items with
  | nil => rfl
  | cons item rest ih => rw [itemsToJson?, ih, List.mapM_cons]; rfl

theorem toJson?_ne_null {source : Source} (h : source ≠ .null) :
    source.toJson? ≠ some .null := by
  intro hnull
  cases source with
  | null => exact h rfl
  | bool => cases hnull
  | _ =>
    obtain ⟨_, -, heq⟩ := Option.map_eq_some_iff.mp hnull
    cases heq

theorem optional_of_ne_null {read : Source → Option α} {source : Source} (h : source ≠ .null) :
    source.optional read = (read source).map some := by
  cases source with
  | null => exact absurd rfl h
  | _ => rfl

-- ---------------------------------------------------------------------------
-- The fields of a record
-- ---------------------------------------------------------------------------

/-- An object whose keys can be read. -/
def ofNamed (named : List (String × Source)) : Source :=
  .object (named.map fun field => (some field.1, field.2))

theorem fields?_eq_some_iff {source : Source} {named : List (String × Source)} :
    source.fields? = some named ↔ source = ofNamed named := by
  have hfield : ∀ (field : Option String × Source) (other : String × Source),
      field.1.map (fun key => (key, field.2)) = some other ↔ field = (some other.1, other.2) := by
    rintro ⟨key, value⟩ ⟨name, other⟩
    simp
  cases source with
  | object fields =>
    rw [fields?, mapM_eq_some_iff, ofNamed, Source.object.injEq, ← List.forall₂_eq_eq_eq,
      List.forall₂_map_right_iff]
    simp only [hfield]
  | _ => exact iff_of_false nofun nofun

theorem ofJson_object (fields : List (String × Json)) :
    ofJson (.object fields) = ofNamed (fields.map fun field => (field.1, ofJson field.2)) := by
  rw [ofJson, ofFields_eq_map, ofNamed, List.map_map]
  rfl

theorem fields?_ofJson (fields : List (String × Json)) :
    (ofJson (.object fields)).fields? =
      some (fields.map fun field => (field.1, ofJson field.2)) :=
  fields?_eq_some_iff.mpr (ofJson_object fields)

/-- A field written once is the only choice. -/
theorem slot?_of_nodup {named : List (String × Source)} (h : (named.map Prod.fst).Nodup)
    (name : String) : slot? named name = some (named.lookup name) := by
  induction named with
  | nil => rfl
  | cons field rest ih =>
    obtain ⟨key, value⟩ := field
    obtain ⟨hkey, hrest⟩ := List.nodup_cons.mp h
    by_cases hk : key = name
    · subst hk
      have hnone : rest.filter (fun field => field.1 == key) = [] := by
        rw [List.filter_eq_nil_iff]
        intro field hf heq
        exact hkey (List.mem_map.mpr ⟨field, hf, eq_of_beq heq⟩)
      simp [slot?, hnone]
    · have hne : (name == key) = false := by simpa using Ne.symm hk
      rw [List.lookup_cons, hne]
      simpa [slot?, hk] using ih hrest

theorem keys_map_ofJson (fields : List (String × Json)) :
    (fields.map fun field => (field.1, ofJson field.2)).map Prod.fst = fields.map Prod.fst := by
  rw [List.map_map]
  rfl

theorem slot?_map_ofJson {fields : List (String × Json)} (h : (fields.map Prod.fst).Nodup)
    (name : String) :
    slot? (fields.map fun field => (field.1, ofJson field.2)) name =
      some ((fields.lookup name).map ofJson) := by
  rw [slot?_of_nodup (keys_map_ofJson fields ▸ h), Entries.lookup_map]

/-- The members of a record, by name. -/
theorem slots?_ofNamed {named : List (String × Source)} (h : (named.map Prod.fst).Nodup)
    (shape : RecordShape) :
    (ofNamed named).slots? shape =
      if shape.closed && !named.all (fun field => shape.names.contains field.1) then none
      else some (shape.names.map fun name => named.lookup name) := by
  have hslot : slot? named = fun name => pure (named.lookup name) :=
    funext (slot?_of_nodup h)
  have hread : (ofNamed named).slots? shape =
      (ofNamed named).fields?.bind fun named =>
        if shape.closed && !named.all (fun field => shape.names.contains field.1) then none
        else shape.names.mapM (slot? named) := rfl
  rw [hread, fields?_eq_some_iff.mpr rfl, Option.bind_some, hslot, List.mapM_pure]
  rfl

/-- The fields of a record, from an object. -/
theorem slots?_object {fields : List (String × Json)} (h : (fields.map Prod.fst).Nodup)
    (shape : RecordShape) :
    (ofJson (.object fields)).slots? shape =
      if shape.closed && !fields.all (fun field => shape.names.contains field.1) then none
      else some (shape.names.map fun name => (fields.lookup name).map ofJson) := by
  rw [ofJson_object, slots?_ofNamed (keys_map_ofJson fields ▸ h), List.all_map]
  simp only [Entries.lookup_map, Function.comp_def]

/-- The fields of a record, from an array. -/
theorem slots?_array (items : List Json) (shape : RecordShape) :
    (ofJson (.array items)).slots? shape =
      if shape.fewest ≤ items.length ∧ items.length ≤ shape.names.length then
        some (items.map (some ∘ ofJson) ++
          List.replicate (shape.names.length - items.length) none)
      else none := by
  rw [ofJson, ofItems_eq_map, slots?, List.length_map, List.map_map]

end Source

end Json

end RecordSchema
