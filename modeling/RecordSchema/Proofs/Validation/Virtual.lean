import RecordSchema.Proofs.Validation.Pass

/-!
# Virtual properties are invisible

`virtual_invisible`: a pass leaves the record without its virtual properties and otherwise as
it was, and judges nothing else. So virtual properties make no difference between two records,
a second pass repeats the first, and a record with nothing but virtual properties only lacks
what is required.
-/

namespace RecordSchema

/-- Validate so many times more, each time what the time before has left. -/
def Schema.revalidate (s : Schema) (kind : String) : Nat → Record → Outcome
  | 0, data => s.validate kind data
  | n + 1, data => s.revalidate kind n (s.validate kind data).value

theorem Schema.entries_strip (s : Schema) (data : Record) :
    (s.strip data).entries = data.entries.filter fun entry => entry.1 ∉ s.virtuals.keys := by
  rw [strip_eq]
  rfl

theorem Schema.strip_eq_of_filter_eq {s : Schema} {data other : Record}
    (h : (data.entries.filter fun entry => entry.1 ∉ s.virtuals.keys) =
      other.entries.filter fun entry => entry.1 ∉ s.virtuals.keys) :
    s.strip data = s.strip other := by
  apply OrderedMap.ext_entries
  rw [entries_strip, entries_strip, h]

theorem Schema.strip_strip (s : Schema) (data : Record) :
    s.strip (s.strip data) = s.strip data := by
  apply strip_eq_of_filter_eq
  rw [entries_strip, List.filter_filter]
  simp only [Bool.and_self]

/-- A pass sees of a record only what it leaves of it. -/
theorem Schema.validate_congr {s : Schema} (h : s.strip data = s.strip other) (kind : String) :
    s.validate kind data = s.validate kind other := by
  rw [validate, validate, h]

theorem Schema.validate_value (s : Schema) (kind : String) (data : Record) :
    s.validate kind (s.validate kind data).value = s.validate kind data :=
  validate_congr (s.strip_strip data) kind

theorem Schema.revalidate_eq (s : Schema) (kind : String) (n : Nat) (data : Record) :
    s.revalidate kind n data = s.validate kind data := by
  induction n generalizing data with
  | zero => rfl
  | succ n ih => rw [revalidate, ih, validate_value]

/-- Without any entry, all that is wrong is what is missing. -/
theorem Schema.mem_collect_of_no_entries {s : Schema} {data : Record} (h : data.entries = [])
    (kind : String) :
    v ∈ s.collect kind data ↔ ∃ p d, s.get? p = some d ∧ d.required = true ∧
      p ∉ s.virtuals.keys ∧ v = .required p := by
  have hnone : ∀ p, data.get? p = none := fun p => by rw [OrderedMap.get?, h]; rfl
  have hvirtual : ∀ p, s.isVirtual p = false ↔ p ∉ s.virtuals.keys := fun p => by
    rw [← OrderedMap.contains_iff_mem_keys, Bool.not_eq_true, isVirtual]
  rw [collect, h, List.flatMap_nil, List.nil_append, List.mem_filterMap]
  constructor
  · rintro ⟨⟨p, d⟩, hmem, hv⟩
    obtain ⟨⟨hrequired, hvirt, -⟩, rfl⟩ := missingViolation?_eq_some_iff.mp hv
    exact ⟨p, d, (Entries.lookup_eq_some_iff_mem s.properties.nodup).mpr hmem, hrequired,
      (hvirtual p).mp hvirt, rfl⟩
  · rintro ⟨p, d, hd, hrequired, hvirt, rfl⟩
    refine ⟨(p, d), (Entries.lookup_eq_some_iff_mem s.properties.nodup).mp hd, ?_⟩
    exact missingViolation?_eq_some_iff.mpr
      ⟨⟨hrequired, (hvirtual p).mpr hvirt, hnone p⟩, rfl⟩

/-- Virtual properties leave a record, the rest stays in its order, and the outcome does not
depend on what they were. A further pass changes nothing. -/
theorem Schema.virtual_invisible (s : Schema) (kind : String) :
    (∀ data, (s.validate kind data).value.entries =
      data.entries.filter fun entry => entry.1 ∉ s.virtuals.keys) ∧
    (∀ data other : Record,
      (data.entries.filter fun entry => entry.1 ∉ s.virtuals.keys) =
        (other.entries.filter fun entry => entry.1 ∉ s.virtuals.keys) →
      s.validate kind data = s.validate kind other) ∧
    (∀ n data, s.revalidate kind n data = s.validate kind data) ∧
    ∀ data : Record, (∀ key ∈ data.keys, key ∈ s.virtuals.keys) →
      ∀ v, v ∈ (s.validate kind data).violations ↔ ∃ p d, s.get? p = some d ∧
        d.required = true ∧ p ∉ s.virtuals.keys ∧ v = .required p := by
  refine ⟨s.entries_strip, fun data other h => ?_, s.revalidate_eq kind, fun data h v => ?_⟩
  · exact validate_congr (strip_eq_of_filter_eq h) kind
  · have hnone : (s.strip data).entries = [] := by
      rw [entries_strip, List.filter_eq_nil_iff]
      intro entry he
      simpa using h entry.1 (List.mem_map_of_mem he)
    rw [violations_validate]
    exact mem_collect_of_no_entries hnone kind

/-- A required name with a rule that counts entries, and a required name that is virtual. -/
def greeting : Schema :=
  let lone : Rule := .custom (fun data _ => data.size == 1) []
  ((Schema.empty.declare "name" ⟨some .string, true, none, some lone, none⟩).declare
    "fullName" ⟨some .int, true, none, none, none⟩).declareVirtual "fullName"

theorem Schema.virtual_invisible_fullName :
    let data : Record := .ofEntries [("fullName", .null), ("name", .string "Ada")]
    let other : Record := .ofEntries [("name", .string "Ada"), ("fullName", .bool true)]
    let unnamed : Record := .ofEntries [("fullName", .string "Ada Byron")]
    ((data.entries.filter fun entry => entry.1 ∉ greeting.virtuals.keys) =
        (other.entries.filter fun entry => entry.1 ∉ greeting.virtuals.keys) ∧
      greeting.validate "User" data = greeting.validate "User" other) ∧
    (∀ key ∈ unnamed.keys, key ∈ greeting.virtuals.keys) ∧
      ∀ v, v ∈ (greeting.validate "User" unnamed).violations ↔ ∃ p d, greeting.get? p = some d ∧
        d.required = true ∧ p ∉ greeting.virtuals.keys ∧ v = .required p := by
  intro data other unnamed
  have hsame : (data.entries.filter fun entry => entry.1 ∉ greeting.virtuals.keys) =
      other.entries.filter fun entry => entry.1 ∉ greeting.virtuals.keys := by rfl
  have hvirtual : ∀ key ∈ unnamed.keys, key ∈ greeting.virtuals.keys := by decide
  exact ⟨⟨hsame, (greeting.virtual_invisible "User").2.1 data other hsame⟩, hvirtual,
    (greeting.virtual_invisible "User").2.2.2 unnamed hvirtual⟩

end RecordSchema
