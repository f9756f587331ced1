import Mathlib.Data.List.Nodup
import RecordSchema.Proofs.Document.Tree

/-!
# From sources to trees

A source is read into a tree by keeping the last of repeated keys (`collapse?`), so the tree is
well-formed. A source without repeated keys is its own tree (`ofJson_of_toJson?`), and a closed
record whose members can be read has the same members in the tree (`slots?_collapse?`).
-/

namespace RecordSchema

namespace Json

namespace Source

-- ---------------------------------------------------------------------------
-- Reading everything
-- ---------------------------------------------------------------------------

mutual
/-- What is read has no repeated keys. -/
theorem wellFormed_of_toJson? : (source : Source) → source.toJson? = some j → j.WellFormed
  | .null, h => by cases h; trivial
  | .bool _, h => by cases h; trivial
  | .number _, h => by
    obtain ⟨n, -, rfl⟩ := Option.map_eq_some_iff.mp h
    trivial
  | .string _, h => by
    obtain ⟨s, -, rfl⟩ := Option.map_eq_some_iff.mp h
    trivial
  | .array items, h => by
    obtain ⟨js, hjs, rfl⟩ := Option.map_eq_some_iff.mp h
    exact wellFormedItems_of_itemsToJson? items hjs
  | .object fields, h => by
    obtain ⟨fs, hfs, rfl⟩ := Option.map_eq_some_iff.mp h
    have hwell := wellFormedFields_iff.mp (wellFormedFields_of_fieldsToJson? fields hfs)
    refine ⟨Entries.nodup_collapse fs, wellFormedFields_iff.mpr fun field hf => ?_⟩
    exact hwell field (Entries.mem_of_mem_collapse hf)
theorem wellFormedItems_of_itemsToJson? : (items : List Source) → {js : List Json} →
    itemsToJson? items = some js → WellFormedItems js
  | [], _, h => by cases h; trivial
  | item :: rest, _, h => by
    simp only [itemsToJson?, Option.bind_eq_bind, Option.bind_eq_some_iff] at h
    obtain ⟨j, hj, js, hjs, heq⟩ := h
    cases heq
    exact ⟨wellFormed_of_toJson? item hj, wellFormedItems_of_itemsToJson? rest hjs⟩
theorem wellFormedFields_of_fieldsToJson? : (fields : List (Option String × Source)) →
    {fs : List (String × Json)} → fieldsToJson? fields = some fs → WellFormedFields fs
  | [], _, h => by cases h; trivial
  | (_, value) :: rest, _, h => by
    simp only [fieldsToJson?, Option.bind_eq_bind, Option.bind_eq_some_iff] at h
    obtain ⟨_, -, j, hj, fs, hfs, heq⟩ := h
    cases heq
    exact ⟨wellFormed_of_toJson? value hj, wellFormedFields_of_fieldsToJson? rest hfs⟩
end

/-- The source of the tree, in which every object is collapsed. -/
def collapse? (source : Source) : Option Source := source.toJson?.map ofJson

theorem collapse?_array (items : List Source) :
    (Source.array items).collapse? = (items.mapM collapse?).map .array := by
  have hitems : (itemsToJson? items).map ofItems = items.mapM collapse? := by
    induction items with
    | nil => rfl
    | cons item rest ih =>
      rw [List.mapM_cons, ← ih, itemsToJson?, collapse?]
      cases item.toJson? <;> cases itemsToJson? rest <;> rfl
  rw [← hitems, collapse?, toJson?]
  cases itemsToJson? items <;> rfl

theorem collapse?_ofNamed (named : List (String × Source)) :
    (ofNamed named).collapse? = (named.mapM fun field => (collapse? field.2).map (field.1, ·)).map
      fun trees => ofNamed (Entries.collapse trees) := by
  have hfields : (fieldsToJson? (named.map fun field => (some field.1, field.2))).map
      (fun fields => fields.map fun field => (field.1, ofJson field.2)) =
        named.mapM fun field => (collapse? field.2).map (field.1, ·) := by
    induction named with
    | nil => rfl
    | cons field rest ih =>
      rw [List.mapM_cons, ← ih, List.map_cons, fieldsToJson?, collapse?]
      cases field.2.toJson? <;>
        cases fieldsToJson? (rest.map fun field => (some field.1, field.2)) <;> rfl
  rw [← hfields, ofNamed, collapse?, toJson?]
  cases fieldsToJson? (named.map fun field => (some field.1, field.2)) with
  | none => rfl
  | some fields =>
    simp only [Option.map_some, ofJson, ofFields_eq_map, ofNamed, ← Entries.map_collapse,
      List.map_map, Function.comp_def]

-- ---------------------------------------------------------------------------
-- No repeated keys
-- ---------------------------------------------------------------------------

mutual
/-- No object repeats a key, at any depth. -/
def DistinctKeys : Source → Prop
  | .array items => DistinctKeysItems items
  | .object fields => (fields.map Prod.fst).Nodup ∧ DistinctKeysFields fields
  | _ => True
def DistinctKeysItems : List Source → Prop
  | [] => True
  | item :: rest => item.DistinctKeys ∧ DistinctKeysItems rest
def DistinctKeysFields : List (Option String × Source) → Prop
  | [] => True
  | (_, value) :: rest => value.DistinctKeys ∧ DistinctKeysFields rest
end

mutual
/-- With nothing to collapse, the tree says all that the source says. -/
theorem ofJson_of_toJson? : (source : Source) → source.DistinctKeys →
    source.toJson? = some j → ofJson j = source
  | .null, _, h => by cases h; rfl
  | .bool _, _, h => by cases h; rfl
  | .number _, _, h => by
    obtain ⟨n, rfl, rfl⟩ := Option.map_eq_some_iff.mp h
    rfl
  | .string _, _, h => by
    obtain ⟨s, rfl, rfl⟩ := Option.map_eq_some_iff.mp h
    rfl
  | .array items, hkeys, h => by
    obtain ⟨js, hjs, rfl⟩ := Option.map_eq_some_iff.mp h
    rw [ofJson, ofItems_of_itemsToJson? items hkeys hjs]
  | .object fields, hkeys, h => by
    obtain ⟨fs, hfs, rfl⟩ := Option.map_eq_some_iff.mp h
    have hfields := ofFields_of_fieldsToJson? fields hkeys.2 hfs
    have hnodup : (fs.map Prod.fst).Nodup := by
      have hmap : fields.map Prod.fst = (fs.map Prod.fst).map some := by
        rw [← hfields, ofFields_eq_map, List.map_map, List.map_map]
        rfl
      exact List.Nodup.of_map some (hmap ▸ hkeys.1)
    rw [Entries.collapse_of_nodup hnodup, ofJson, hfields]
theorem ofItems_of_itemsToJson? : (items : List Source) → DistinctKeysItems items →
    {js : List Json} → itemsToJson? items = some js → ofItems js = items
  | [], _, _, h => by cases h; rfl
  | item :: rest, hkeys, _, h => by
    simp only [itemsToJson?, Option.bind_eq_bind, Option.bind_eq_some_iff] at h
    obtain ⟨j, hj, js, hjs, heq⟩ := h
    cases heq
    rw [ofItems, ofJson_of_toJson? item hkeys.1 hj, ofItems_of_itemsToJson? rest hkeys.2 hjs]
theorem ofFields_of_fieldsToJson? : (fields : List (Option String × Source)) →
    DistinctKeysFields fields → {fs : List (String × Json)} →
    fieldsToJson? fields = some fs → ofFields fs = fields
  | [], _, _, h => by cases h; rfl
  | (_, value) :: rest, hkeys, _, h => by
    simp only [fieldsToJson?, Option.bind_eq_bind, Option.bind_eq_some_iff] at h
    obtain ⟨_, rfl, j, hj, fs, hfs, heq⟩ := h
    cases heq
    rw [ofFields, ofJson_of_toJson? value hkeys.1 hj, ofFields_of_fieldsToJson? rest hkeys.2 hfs]
end

-- ---------------------------------------------------------------------------
-- The members of a record
-- ---------------------------------------------------------------------------

/-- A slot holds all that is written under its name. -/
theorem filter_of_slot? {named : List (String × Source)} (h : slot? named name = some slot) :
    (named.filter fun field => field.1 == name).map Prod.snd = slot.toList := by
  unfold slot? at h
  split at h
  · cases h
    simp [*]
  · cases h
    simp [*]
  · cases h

theorem nodup_of_slot? {named : List (String × Source)}
    (h : ∀ field ∈ named, (slot? named field.1).isSome = true) : (named.map Prod.fst).Nodup := by
  rw [List.nodup_iff_count_le_one]
  intro key
  by_cases hkey : key ∈ named.map Prod.fst
  · obtain ⟨field, hf, rfl⟩ := List.mem_map.mp hkey
    obtain ⟨slot, hslot⟩ := Option.isSome_iff_exists.mp (h field hf)
    have hlength := congrArg List.length (filter_of_slot? hslot)
    rw [List.length_map] at hlength
    rw [List.count, List.countP_map, List.countP_eq_length_filter]
    calc _ = slot.toList.length := hlength
      _ ≤ 1 := Option.length_toList_le
  · rw [List.count_eq_zero_of_not_mem hkey]
    exact Nat.zero_le 1

/-- A closed record that is read from an object lists distinct names, all of them its own. -/
theorem slots?_object_inv {shape : RecordShape} {fields : List (Option String × Source)}
    (hclosed : shape.closed = true) (h : (Source.object fields).slots? shape = some slots) :
    ∃ named : List (String × Source), Source.object fields = ofNamed named ∧
      (named.map Prod.fst).Nodup ∧ (∀ field ∈ named, field.1 ∈ shape.names) ∧
        slots = shape.names.map fun name => named.lookup name := by
  obtain ⟨named, hnamed, h⟩ := Option.bind_eq_some_iff.mp h
  rw [hclosed, Bool.true_and] at h
  split at h
  · cases h
  · rename_i hall
    have hkeys : ∀ field ∈ named, field.1 ∈ shape.names := by simpa using hall
    have hread : ∀ name ∈ shape.names, (slot? named name).isSome = true :=
      isSome_mapM.mp (by rw [h]; rfl)
    have hnodup := nodup_of_slot? fun field hf => hread field.1 (hkeys field hf)
    have hslot : slot? named = fun name => pure (named.lookup name) :=
      funext (slot?_of_nodup hnodup)
    rw [hslot, List.mapM_pure] at h
    cases h
    exact ⟨named, fields?_eq_some_iff.mp hnamed, hnodup, hkeys, rfl⟩

theorem slots?_collapse?_object {shape : RecordShape} {fields : List (Option String × Source)}
    (hclosed : shape.closed = true) (h : (Source.object fields).slots? shape = some slots)
    (hread : ∀ slot ∈ slots, ∀ member ∈ slot, (collapse? member).isSome = true) :
    ∃ tree, (Source.object fields).collapse? = some tree ∧
      tree.slots? shape = some (slots.map fun slot => slot.bind collapse?) := by
  obtain ⟨named, heq, hnodup, hkeys, rfl⟩ := slots?_object_inv hclosed h
  have hvalues : ∀ field ∈ named, ((collapse? field.2).map (field.1, ·)).isSome = true := by
    intro field hf
    rw [Option.isSome_map]
    exact hread _ (List.mem_map_of_mem (hkeys field hf)) _
      ((Entries.lookup_eq_some_iff_mem hnodup).mpr hf)
  obtain ⟨trees, htrees⟩ := Option.isSome_iff_exists.mp (isSome_mapM.mpr hvalues)
  have hrelated := mapM_values_eq_some_iff.mp htrees
  have hnodup' : (trees.map Prod.fst).Nodup := hrelated.keys_eq ▸ hnodup
  refine ⟨ofNamed trees, ?_, ?_⟩
  · rw [heq, collapse?_ofNamed, htrees, Option.map_some, Entries.collapse_of_nodup hnodup']
  · have hall : trees.all (fun field => shape.names.contains field.1) = true := by
      have hall : ∀ key ∈ trees.map Prod.fst, key ∈ shape.names := by
        rw [← hrelated.keys_eq]
        exact List.forall_mem_map.mpr hkeys
      simpa using List.forall_mem_map.mp hall
    rw [slots?_ofNamed hnodup', hall, hclosed, List.map_map]
    refine congrArg some (List.map_congr_left fun name _ => ?_)
    rw [Function.comp_apply, hrelated.lookup_eq_bind]

theorem slots?_collapse?_array {shape : RecordShape} {items : List Source}
    (h : (Source.array items).slots? shape = some slots)
    (hread : ∀ slot ∈ slots, ∀ member ∈ slot, (collapse? member).isSome = true) :
    ∃ tree, (Source.array items).collapse? = some tree ∧
      tree.slots? shape = some (slots.map fun slot => slot.bind collapse?) := by
  rw [slots?] at h
  split at h
  · rename_i hlength
    cases h
    have hitems : ∀ item ∈ items, (collapse? item).isSome = true := fun item hi =>
      hread (some item) (List.mem_append_left _ (List.mem_map_of_mem hi)) item rfl
    obtain ⟨trees, htrees⟩ := Option.isSome_iff_exists.mp (isSome_mapM.mpr hitems)
    have hrelated := mapM_eq_some_iff.mp htrees
    refine ⟨.array trees, by rw [collapse?_array, htrees]; rfl, ?_⟩
    have hslots : trees.map some = items.map collapse? := by
      rw [← List.forall₂_eq_eq_eq, List.forall₂_map_left_iff, List.forall₂_map_right_iff]
      exact hrelated.flip.imp fun _ _ h => h.symm
    rw [slots?, ← hrelated.length_eq, if_pos hlength, hslots, List.map_append, List.map_map,
      List.map_replicate]
    rfl
  · cases h

/-- A record whose members can be read has the same members in its tree. -/
theorem slots?_collapse? {source : Source} {shape : RecordShape} (hclosed : shape.closed = true)
    (h : source.slots? shape = some slots)
    (hread : ∀ slot ∈ slots, ∀ member ∈ slot, (collapse? member).isSome = true) :
    ∃ tree, source.collapse? = some tree ∧
      tree.slots? shape = some (slots.map fun slot => slot.bind collapse?) := by
  cases source with
  | object fields => exact slots?_collapse?_object hclosed h hread
  | array items => exact slots?_collapse?_array h hread
  | _ => cases h

end Source

end Json

end RecordSchema
