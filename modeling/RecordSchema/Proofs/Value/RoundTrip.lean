import RecordSchema.Proofs.Value.Equality

/-!
# Through document trees and back

Every tree survives the trip through values. A value survives the trip through trees exactly
when nothing in it is of a tagged kind: what is lowered is never raised again (`round_trip`).
-/

namespace RecordSchema

namespace Value

theorem isTagged_of_beq {a b : Value} (h : (a == b) = true) (ha : a.IsTagged) : b.IsTagged := by
  cases matches_of_beq h with
  | leaf | float | geoPoint => exact ha
  | array | object => exact ha.elim

/-- Equality cannot hide a tagged part: its counterpart is tagged too. -/
theorem plain_of_beq {a b : Value} (h : (a == b) = true) (hb : b.Plain) : a.Plain := by
  intro part hpart htagged
  obtain ⟨other, hother, hequal⟩ := hpart.counterpart h
  exact hb other hother (isTagged_of_beq hequal htagged)

-- ---------------------------------------------------------------------------
-- Raising and lowering
-- ---------------------------------------------------------------------------

mutual
theorem toJson_ofJson : (j : Json) → (ofJson j).toJson = j
  | .null | .bool _ | .number _ | .string _ => rfl
  | .array items => congrArg Json.array (itemsToJson_ofItems items)
  | .object fields => congrArg Json.object (fieldsToJson_ofFields fields)
theorem itemsToJson_ofItems : (items : List Json) → itemsToJson (ofItems items) = items
  | [] => rfl
  | item :: rest => by
    rw [ofItems, itemsToJson, toJson_ofJson item, itemsToJson_ofItems rest]
theorem fieldsToJson_ofFields : (fields : List (String × Json)) →
    fieldsToJson (ofFields fields) = fields
  | [] => rfl
  | (key, value) :: rest => by
    rw [ofFields, fieldsToJson, toJson_ofJson value, fieldsToJson_ofFields rest]
end

/-- What is plain comes back as it was. -/
theorem lowered_of_plain {v : Value} (h : v.Plain) : ofJson v.toJson = v := by
  induction v using nested_induction with
  | leaf v hleaf =>
    have htagged : ¬ v.IsTagged := h v (.self v)
    cases v with
    | array | object => exact hleaf.elim
    | int | double | geoPoint | buffer | dateTime => exact (htagged trivial).elim
    | _ => rfl
  | array items ih =>
    rw [plain_array_iff] at h
    rw [ofJson_toJson_array, List.map_congr_left fun item hitem => ih item hitem (h item hitem),
      List.map_id']
  | object fields ih =>
    rw [plain_object_iff] at h
    have hfields : ∀ field ∈ fields, (field.1, ofJson field.2.toJson) = field := fun field hfield =>
      congrArg (field.1, ·) (ih field hfield (h field hfield))
    rw [ofJson_toJson_object, List.map_congr_left hfields, List.map_id']

theorem wellFormed_lowered {v : Value} (h : v.WellFormed) : (ofJson v.toJson).WellFormed := by
  induction v using nested_induction with
  | leaf v hleaf => exact wellFormed_lowered_of_isLeaf hleaf
  | array items ih =>
    rw [ofJson_toJson_array, wellFormed_array_iff]
    exact List.forall_mem_map.mpr fun item hitem =>
      ih item hitem (wellFormed_array_iff.mp h item hitem)
  | object fields ih =>
    obtain ⟨hkeys, hfields⟩ := wellFormed_object_iff.mp h
    rw [ofJson_toJson_object, wellFormed_object_iff, List.map_map]
    exact ⟨hkeys, List.forall_mem_map.mpr fun field hfield =>
      ih field hfield (hfields field hfield)⟩

theorem lowered_beq_iff {v : Value} (hv : v.WellFormed) :
    (ofJson v.toJson == v) = true ↔ v.Plain := by
  constructor
  · intro h
    exact plain_of_beq (beq_symm (wellFormed_lowered hv) h) (plain_ofJson v.toJson)
  · intro h
    rw [lowered_of_plain h]
    exact beq_refl hv h.nanFree

/-- Trees come back as they were, with their fields in order and each number of its kind. A value
comes back as an equal one exactly when nothing in it is tagged, and a second trip changes
nothing any more. -/
theorem round_trip (j : Json) (v : Value) (hv : v.WellFormed) :
    (ofJson j).toJson = j ∧
    ((ofJson v.toJson == v) = true ↔ ∀ part, OccursIn part v → ¬ part.IsTagged) ∧
    (ofJson v.toJson).toJson = v.toJson ∧
    ∀ part, OccursIn part (ofJson v.toJson) → ¬ part.IsTagged :=
  ⟨toJson_ofJson j, lowered_beq_iff hv, toJson_ofJson v.toJson, plain_ofJson v.toJson⟩

/-- The wrapped integer of `venue` comes back as a number. -/
theorem round_trip_venue :
    venue.WellFormed ∧
    (ofJson venue.toJson == venue) = false ∧
    (ofJson venue.toJson).toJson = venue.toJson ∧
    ¬ OccursIn (.int ⟨"7"⟩) (ofJson venue.toJson) := by
  have hwell : venue.WellFormed := by simp [venue, WellFormed, WellFormedItems, WellFormedFields]
  obtain ⟨-, hequal, htwice, hplain⟩ := round_trip venue.toJson venue hwell
  refine ⟨hwell, ?_, htwice, fun hpart => hplain _ hpart trivial⟩
  have hpart : OccursIn (.int ⟨"7"⟩) venue := by
    refine .field (List.mem_cons_of_mem _ List.mem_cons_self) (.item List.mem_cons_self ?_)
    exact .field List.mem_cons_self (.self _)
  rw [Bool.eq_false_iff, Ne, hequal]
  exact fun h => h _ hpart trivial

end Value

end RecordSchema
