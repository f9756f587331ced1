import RecordSchema.Proofs.Document.Tree
import RecordSchema.Report

/-!
# Reports as documents

A report comes back from its document as it was, whatever the joined message there says, and two
reports have equal documents exactly when they are equal (`lossless`). Details that are empty have
no field, and are empty again when the field is missing.
-/

namespace RecordSchema

open Json (Source)

-- ---------------------------------------------------------------------------
-- Nesting
-- ---------------------------------------------------------------------------

namespace Json

theorem depth_le_of_mem_items {items : List Json} (h : item ∈ items) :
    item.depth ≤ depthItems items := by
  induction items with
  | nil => cases h
  | cons other rest ih =>
    rw [depthItems]
    rcases List.mem_cons.mp h with rfl | h
    · exact Nat.le_max_left _ _
    · exact Nat.le_trans (ih h) (Nat.le_max_right _ _)

theorem depth_le_of_mem_fields {fields : List (String × Json)} (h : field ∈ fields) :
    field.2.depth ≤ depthFields fields := by
  induction fields with
  | nil => cases h
  | cons other rest ih =>
    rw [depthFields]
    rcases List.mem_cons.mp h with rfl | h
    · exact Nat.le_max_left _ _
    · exact Nat.le_trans (ih h) (Nat.le_max_right _ _)

/-- Items and fields nest less than what holds them. -/
theorem depth_lt_array {items : List Json} (h : item ∈ items) :
    item.depth < (Json.array items).depth :=
  Nat.lt_succ_of_le (depth_le_of_mem_items h)

theorem depth_lt_object {fields : List (String × Json)} (h : field ∈ fields) :
    field.2.depth < (Json.object fields).depth :=
  Nat.lt_succ_of_le (depth_le_of_mem_fields h)

theorem depth_lt_of_field? {j : Json} (h : j.field? key = some value) : value.depth < j.depth := by
  cases j with
  | object fields => exact depth_lt_object (Entries.mem_of_lookup h)
  | _ => cases h

mutual
/-- A source made from a tree nests as the tree does. -/
theorem depth_ofJson : (j : Json) → (Source.ofJson j).depth = j.depth
  | .null | .bool _ | .number _ | .string _ => rfl
  | .array items => congrArg (· + 1) (depthItems_ofItems items)
  | .object fields => congrArg (· + 1) (depthFields_ofFields fields)
theorem depthItems_ofItems : (items : List Json) →
    Source.depthItems (Source.ofItems items) = depthItems items
  | [] => rfl
  | item :: rest => by
    rw [Source.ofItems, Source.depthItems, depthItems, depth_ofJson item, depthItems_ofItems rest]
theorem depthFields_ofFields : (fields : List (String × Json)) →
    Source.depthFields (Source.ofFields fields) = depthFields fields
  | [] => rfl
  | (_, value) :: rest => by
    rw [Source.ofFields, Source.depthFields, depthFields, depth_ofJson value,
      depthFields_ofFields rest]
end

end Json

-- ---------------------------------------------------------------------------
-- Violations
-- ---------------------------------------------------------------------------

namespace Violation

/-- No object in the details repeats a key. -/
def WellFormed (v : Violation) : Prop := ∀ entry ∈ v.params.entries, entry.2.WellFormed

theorem paramsOfSource?_ofJson {params : OrderedMap Json}
    (hwell : ∀ entry ∈ params.entries, entry.2.WellFormed)
    (hroom : ∀ entry ∈ params.entries, entry.2.depth ≤ room) :
    paramsOfSource? room (.ofJson (.object params.entries)) = some params := by
  have hread : (params.entries.map fun entry => (entry.1, Source.ofJson entry.2)).mapM
      (fun field => if field.2.depth ≤ room then field.2.toJson?.map (field.1, ·) else none) =
        some params.entries := by
    rw [mapM_eq_some_iff, List.forall₂_map_left_iff, List.forall₂_same]
    intro entry hentry
    rw [Json.depth_ofJson, if_pos (hroom entry hentry),
      Source.toJson?_ofJson _ (hwell entry hentry)]
    rfl
  rw [paramsOfSource?, Source.fields?_ofJson, Option.bind_eq_bind, Option.bind_some, hread]
  exact congrArg some (OrderedMap.ext_entries (Entries.collapse_of_nodup params.nodup))

theorem field?_params (v : Violation) :
    v.toJson.field? "params" =
      if v.params.entries = [] then none else some (.object v.params.entries) := by
  cases h : v.params.entries <;> simp [toJson, Json.field?, List.lookup_cons, h]

/-- Details stand in the fourth slot, unless they are left out. -/
theorem slots?_toJson (v : Violation) :
    (Source.ofJson v.toJson).slots? shape = some
      [some (.string (some v.code.text)), some (.string (some v.property)),
        some (.string (some v.message)), (v.toJson.field? "params").map Source.ofJson] := by
  cases h : v.params.entries with
  | nil =>
    rw [toJson, h, List.isEmpty_nil, if_pos rfl, Source.slots?_object (by simp)]
    rfl
  | cons entry rest =>
    rw [toJson, h, List.isEmpty_cons, if_neg (by simp), Source.slots?_object (by simp)]
    rfl

theorem ofSource?_toJson {v : Violation} (hwell : v.WellFormed)
    (hroom : ∀ entry ∈ v.params.entries, entry.2.depth ≤ room) :
    ofSource? room (.ofJson v.toJson) = some v := by
  have hcode : ViolationCode.ofSource? (.string (some v.code.text)) = some v.code :=
    ViolationCode.ofText?_text v.code
  have hparams := paramsOfSource?_ofJson hwell hroom
  unfold ofSource?
  rw [slots?_toJson, field?_params]
  split
  · rename_i hempty
    have hnone : v.params = ∅ := OrderedMap.ext_entries hempty
    simp only [Option.bind_eq_bind, Option.bind_some, Option.map_none, hcode, Source.string?,
      ← hnone]
  · simp only [Option.bind_eq_bind, Option.bind_some, Option.map_some, hcode, Source.string?,
      hparams]

theorem text_beq (c d : ViolationCode) : (c.text == d.text) = (c == d) := by
  cases c <;> cases d <;> decide

theorem beq_eq (v w : Violation) :
    (v == w) = (v.code == w.code && v.property == w.property && v.message == w.message
      && Json.object v.params.entries == Json.object w.params.entries) :=
  rfl

/-- Documents are equal when the violations are: details that are left out are all empty. -/
theorem toJson_beq (v w : Violation) : (v.toJson == w.toJson) = (v == w) := by
  rw [beq_eq, ← text_beq]
  cases hv : v.params.entries with
  | nil =>
    cases hw : w.params.entries with
    | nil =>
      have hfields : (v.toJson == w.toJson) = (v.code.text == w.code.text &&
          (v.property == w.property && (v.message == w.message && true))) := by
        rw [toJson, toJson, hv, hw]
        rfl
      have hparams : (Json.object [] == Json.object []) = true := rfl
      rw [hfields, hparams, Bool.and_assoc, Bool.and_assoc]
    | cons entry rest =>
      have hlength : (v.toJson == w.toJson) = false := by
        rw [toJson, toJson, hv, hw]
        rfl
      have hparams : (Json.object [] == Json.object (entry :: rest)) = false := rfl
      rw [hlength, hparams, Bool.and_false]
  | cons entry rest =>
    cases hw : w.params.entries with
    | nil =>
      have hlength : (v.toJson == w.toJson) = false := by
        rw [toJson, toJson, hv, hw]
        rfl
      have hparams : (Json.object (entry :: rest) == Json.object []) = false := rfl
      rw [hlength, hparams, Bool.and_false]
    | cons other others =>
      have hfields : (v.toJson == w.toJson) = (v.code.text == w.code.text &&
          (v.property == w.property && (v.message == w.message &&
            ((Json.object (entry :: rest) == Json.object (other :: others)) && true)))) := by
        rw [toJson, toJson, hv, hw]
        rfl
      rw [hfields, Bool.and_true, Bool.and_assoc, Bool.and_assoc]

theorem depth_lt_toJson {v : Violation} (h : entry ∈ v.params.entries) :
    entry.2.depth < v.toJson.depth := by
  have hfield : v.toJson.field? "params" = some (.object v.params.entries) := by
    rw [field?_params, if_neg (List.ne_nil_of_mem h)]
  calc entry.2.depth < (Json.object v.params.entries).depth := Json.depth_lt_object h
    _ < v.toJson.depth := Json.depth_lt_of_field? hfield

end Violation

-- ---------------------------------------------------------------------------
-- Reports
-- ---------------------------------------------------------------------------

namespace Report

/-- No object in any details repeats a key. -/
def WellFormed (r : Report) : Prop := ∀ v ∈ r.violations, v.WellFormed

/-- The body of the document, with some text where the joined message belongs. -/
def bodyWith (r : Report) (message : String) : Json :=
  .object [
    ("type", .string "validation_error"),
    ("kind", .string r.kind),
    ("message", .string message),
    ("errors", .array (r.violations.map Violation.toJson))]

def toJsonWith (r : Report) (message : String) : Json := .object [("error", r.bodyWith message)]

theorem toJson_eq (r : Report) : r.toJson = r.toJsonWith r.message := rfl

theorem depth_lt_toJsonWith {r : Report} (message : String) (h : v ∈ r.violations) :
    v.toJson.depth < (r.toJsonWith message).depth := by
  have herrors : (r.bodyWith message).field? "errors" =
      some (.array (r.violations.map Violation.toJson)) := rfl
  have hbody : (r.toJsonWith message).field? "error" = some (r.bodyWith message) := rfl
  calc v.toJson.depth
    _ < (Json.array (r.violations.map Violation.toJson)).depth :=
      Json.depth_lt_array (List.mem_map_of_mem h)
    _ < (r.bodyWith message).depth := Json.depth_lt_of_field? herrors
    _ < (r.toJsonWith message).depth := Json.depth_lt_of_field? hbody

/-- The joined message is not read. -/
theorem ofJson?_toJsonWith {r : Report} (h : r.WellFormed) (message : String) :
    ofJson? (r.toJsonWith message) = some r := by
  have hread : ∀ v ∈ r.violations,
      Violation.ofSource? (r.toJsonWith message).depth (.ofJson v.toJson) = some v := by
    intro v hv
    refine Violation.ofSource?_toJson (h v hv) fun entry hentry => Nat.le_of_lt ?_
    exact Nat.lt_trans (Violation.depth_lt_toJson hentry) (depth_lt_toJsonWith message hv)
  have hviolations : (Source.ofItems (r.violations.map Violation.toJson)).mapM
      (Violation.ofSource? (r.toJsonWith message).depth) = some r.violations := by
    rw [Source.ofItems_eq_map, mapM_eq_some_iff, List.forall₂_map_left_iff,
      List.forall₂_map_left_iff, List.forall₂_same]
    exact hread
  have hwrapper : (Source.ofJson (r.toJsonWith message)).slots? wrapperShape =
      some [some (.ofJson (r.bodyWith message))] := by
    rw [toJsonWith, Source.slots?_object (by simp)]
    rfl
  have hbody : (Source.ofJson (r.bodyWith message)).slots? bodyShape = some
      [some (.string (some "validation_error")), some (.string (some r.kind)),
        some (.string (some message)),
        some (.array (Source.ofItems (r.violations.map Violation.toJson)))] := by
    rw [bodyWith, Source.slots?_object (by simp)]
    rfl
  rw [ofJson?, ofSource?, hwrapper]
  simp only [Option.bind_eq_bind, Option.bind_some, hbody, Source.string?, Source.items?,
    hviolations]

theorem violations_toJson_beq (vs ws : List Violation) :
    Json.beqItems (vs.map Violation.toJson) (ws.map Violation.toJson) = (vs == ws) := by
  induction vs generalizing ws with
  | nil => cases ws <;> rfl
  | cons v vs ih =>
    cases ws with
    | nil => rfl
    | cons w ws =>
      rw [List.map_cons, List.map_cons, Json.beqItems, ih, List.cons_beq_cons,
        ← Violation.toJson_beq]
      rfl

theorem messages_of_beq {vs ws : List Violation} (h : (vs == ws) = true) :
    vs.map Violation.message = ws.map Violation.message := by
  induction vs generalizing ws with
  | nil =>
    cases ws with
    | nil => rfl
    | cons => cases h
  | cons v vs ih =>
    cases ws with
    | nil => cases h
    | cons w ws =>
      rw [List.cons_beq_cons, Bool.and_eq_true, Violation.beq_eq] at h
      simp only [Bool.and_eq_true, beq_iff_eq] at h
      rw [List.map_cons, List.map_cons, ih h.2, h.1.1.2]

/-- The joined messages of equal reports are equal, so they do not count. -/
theorem toJson_beq (r s : Report) : (r.toJson == s.toJson) = (r == s) := by
  have hfields : (r.toJson == s.toJson) = ((r.kind == s.kind && (r.message == s.message &&
      (Json.beqItems (r.violations.map Violation.toJson) (s.violations.map Violation.toJson)
        && true))) && true) := rfl
  have hequal : (r == s) = (r.violations == s.violations && r.kind == s.kind) := rfl
  rw [hfields, hequal, violations_toJson_beq, Bool.and_true, Bool.and_true]
  cases hviolations : r.violations == s.violations with
  | false => simp only [Bool.and_false, Bool.false_and]
  | true =>
    have hmessage : (r.message == s.message) = true := by
      rw [message, message, messages_of_beq hviolations, beq_self_eq_true]
    rw [hmessage, Bool.true_and, Bool.true_and, Bool.and_true]

/-- A report is read back from its document as it was, whatever text stands for the joined
message, so documents are equal exactly when the reports are. The joined message is that of the
listed errors, in their order, and empty details are left out. -/
theorem lossless (r : Report) (h : r.WellFormed) :
    ofJson? r.toJson = some r ∧
    (∀ message, ofJson? (r.toJsonWith message) = some r) ∧
    (∀ s : Report, (r.toJson == s.toJson) = true ↔ (r == s) = true) ∧
    ∃ body errors messages, r.toJson.field? "error" = some body ∧
      body.field? "errors" = some (.array errors) ∧
      List.Forall₂ (fun error message => error.field? "message" = some (.string message))
        errors messages ∧
      body.field? "message" = some (.string ("\n".intercalate messages)) ∧
      List.Forall₂ (fun error v => error.field? "params" = none ↔ v.params.entries = [])
        errors r.violations := by
  have hread : ofJson? r.toJson = some r := by
    rw [toJson_eq]
    exact ofJson?_toJsonWith h r.message
  refine ⟨hread, ofJson?_toJsonWith h, fun s => by rw [toJson_beq], ?_⟩
  refine ⟨r.bodyWith r.message, r.violations.map Violation.toJson,
    r.violations.map Violation.message, rfl, rfl, ?_, rfl, ?_⟩
  · rw [List.forall₂_map_left_iff, List.forall₂_map_right_iff, List.forall₂_same]
    exact fun v _ => rfl
  · rw [List.forall₂_map_left_iff, List.forall₂_same]
    intro v _
    rw [Violation.field?_params]
    simp

/-- One violation without details, and one with two of them. -/
def rejected : Report :=
  ⟨"User", [.new .required "name" "no name",
    (Violation.new .outOfRange "age" "no such age").withParam "bounds"
        (.object [("least", .number (.integer 0 (by decide))), ("most", .null)])
      |>.withParam "seen" (.array [.string "", .bool false])]⟩

theorem lossless_rejected :
    rejected.WellFormed ∧
    ofJson? rejected.toJson = some rejected ∧
    ofJson? (rejected.toJsonWith "") = some rejected ∧
    (rejected.toJson == (rejected.add (.new .required "name" "no name")).toJson) = false := by
  have hbounds : Json.WellFormed (.object
      [("least", .number (.integer 0 (by decide))), ("most", .null)]) :=
    ⟨by decide, trivial, trivial, trivial⟩
  have hseen : Json.WellFormed (.array [.string "", .bool false]) := ⟨trivial, trivial, trivial⟩
  have hwell : rejected.WellFormed :=
    List.forall_mem_cons.mpr ⟨nofun, List.forall_mem_singleton.mpr
      (List.forall_mem_cons.mpr ⟨hbounds, List.forall_mem_singleton.mpr hseen⟩)⟩
  obtain ⟨hread, hwith, hequal, -⟩ := lossless rejected hwell
  refine ⟨hwell, hread, hwith "", ?_⟩
  rw [Bool.eq_false_iff, Ne, hequal]
  decide +kernel

end Report

end RecordSchema
