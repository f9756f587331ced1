import Mathlib.Data.List.Basic
import RecordSchema.Proofs.OrderedMap
import RecordSchema.Validation

/-!
# What a pass says of one property

A pass is two loops, one in the order of the record and one in the order of the
schema. `collect_ofProperty`: the violations of one property come from its own
entry when it has one, and from its own declaration when it has none.
-/

namespace RecordSchema

/-- The violations of the report, if there is one. -/
def Outcome.violations (o : Outcome) : List Violation := o.report.elim [] Report.violations

-- ---------------------------------------------------------------------------
-- Each check names the property that it judges
-- ---------------------------------------------------------------------------

/-- Type, values and rule are judged alike: only what is declared is reported. -/
theorem report_of_check {declared : Option α} {passes : α → Bool} {report : α → Violation}
    (h : (declared.bind fun a => if passes a then none else some (report a)) = some v) :
    ∃ a ∈ declared, v = report a := by
  obtain ⟨a, ha, h⟩ := Option.bind_eq_some_iff.mp h
  split at h
  · cases h
  · cases h
    exact ⟨a, ha, rfl⟩

/-- What is reported of an entry is that it is blank, or something declared that it fails. -/
theorem Definition.cases_of_mem_violations {d : Definition}
    (h : v ∈ d.violations name value data) :
    v = .required name ∨ (∃ t ∈ d.type, v = .wrongType name t value) ∨
      (∃ allowed ∈ d.values, v = .outOfRange name allowed) ∨
      ∃ rule ∈ d.rule, v = .wrongValue name value rule.name := by
  unfold Definition.violations at h
  split at h
  · split at h
    · exact .inl (List.mem_singleton.mp h)
    · simp at h
  · simp only [List.mem_append, Option.mem_toList] at h
    rcases h with (h | h) | h
    · exact .inr (.inl (report_of_check h))
    · exact .inr (.inr (.inl (report_of_check h)))
    · exact .inr (.inr (.inr (report_of_check h)))

theorem Definition.property_of_mem_violations {d : Definition}
    (h : v ∈ d.violations name value data) : v.property = name := by
  obtain rfl | ⟨t, -, rfl⟩ | ⟨allowed, -, rfl⟩ | ⟨rule, -, rfl⟩ := cases_of_mem_violations h
  · rfl
  · rfl
  · rfl
  · rfl

theorem Schema.property_of_mem_entryViolations {s : Schema}
    (h : v ∈ s.entryViolations kind data entry) : v.property = entry.1 := by
  unfold Schema.entryViolations at h
  split at h
  · exact Definition.property_of_mem_violations h
  · split at h
    · simp only [List.mem_singleton] at h
      subst h; rfl
    · simp at h

theorem Schema.missingViolation?_eq_some_iff {s : Schema} :
    s.missingViolation? data entry = some v ↔
      (entry.2.required = true ∧ s.isVirtual entry.1 = false ∧ data.get? entry.1 = none) ∧
        v = .required entry.1 := by
  have hc : data.contains entry.1 = false ↔ data.get? entry.1 = none := by
    simp [OrderedMap.contains]
  simp only [Schema.missingViolation?, ← hc]
  split
  · rename_i h
    simp only [Bool.and_eq_true, Bool.not_eq_true'] at h
    simp [h, eq_comm]
  · rename_i h
    simp only [Bool.and_eq_true, Bool.not_eq_true'] at h
    simp only [reduceCtorEq, false_iff]
    rintro ⟨⟨hr, hv, hd⟩, -⟩
    exact h ⟨⟨hr, hv⟩, hd⟩

theorem Schema.property_of_mem_missing {s : Schema} (entry : String × Definition) :
    ∀ v ∈ (s.missingViolation? data entry).toList, v.property = entry.1 := by
  intro v hv
  rw [Option.mem_toList, missingViolation?_eq_some_iff] at hv
  rw [hv.2]
  rfl

-- ---------------------------------------------------------------------------
-- What a definition is judged by
-- ---------------------------------------------------------------------------

/-- All that validation may read of a definition: the default is left out. -/
def Definition.judged (d : Definition) : Definition := { d with default := none }

/-- Only the rule may look beyond the value. -/
theorem Definition.violations_congr {d e : Definition} (h : d.judged = e.judged)
    (hr : ∀ rule ∈ d.rule, rule.evaluate value data = rule.evaluate value other) :
    d.violations name value data = e.violations name value other := by
  have hj : d.type = e.type ∧ d.required = e.required ∧ d.values = e.values ∧ d.rule = e.rule := by
    simpa [judged] using h
  obtain ⟨htype, hrequired, hvalues, hrule⟩ := hj
  have hv : d.ruleViolation? name value data = e.ruleViolation? name value other := by
    rw [ruleViolation?, ruleViolation?, ← hrule]
    cases hd : d.rule with
    | none => rfl
    | some rule => simp only [Option.bind_some, hr rule hd]
  simp only [violations, typeViolation?, rangeViolation?, htype, hrequired, hvalues, hv]

-- ---------------------------------------------------------------------------
-- The violations of one property
-- ---------------------------------------------------------------------------

/-- Each entry reports about its own key only. -/
theorem Entries.filter_flatMap_report {report : String × α → List Violation}
    (hr : ∀ entry, ∀ v ∈ report entry, v.property = entry.1) (keep : String → Bool)
    (entries : List (String × α)) :
    (entries.flatMap report).filter (fun v => keep v.property) =
      (entries.filter fun entry => keep entry.1).flatMap report := by
  induction entries with
  | nil => rfl
  | cons entry rest ih =>
    rw [List.flatMap_cons, List.filter_append, ih]
    cases hkeep : keep entry.1 with
    | true =>
      have hall : (report entry).filter (fun v => keep v.property) = report entry := by
        rw [List.filter_eq_self]
        intro v hv
        rw [hr entry v hv, hkeep]
      rw [hall, List.filter_cons_of_pos (by simpa using hkeep), List.flatMap_cons]
    | false =>
      have hnone : (report entry).filter (fun v => keep v.property) = [] := by
        rw [List.filter_eq_nil_iff]
        intro v hv
        rw [hr entry v hv, hkeep]
        exact Bool.false_ne_true
      rw [hnone, List.filter_cons_of_neg (by simpa using hkeep), List.nil_append]

/-- As keys are distinct, one entry at most reports about a property. -/
theorem Entries.filter_flatMap_property {entries : List (String × α)}
    (hn : (entries.map Prod.fst).Nodup) {report : String × α → List Violation}
    (hr : ∀ entry, ∀ v ∈ report entry, v.property = entry.1) (p : String) :
    (entries.flatMap report).filter (fun v => v.property == p) =
      (entries.lookup p).elim [] fun value => report (p, value) := by
  rw [Entries.filter_flatMap_report hr (· == p), Entries.filter_key hn]
  cases entries.lookup p with
  | none => rfl
  | some value => exact List.flatMap_singleton report (p, value)

/-- What a pass says of one property: of its entry when there is one, and else
whether it is missing. -/
def Schema.violationsOf (s : Schema) (kind : String) (data : Record) (p : String) :
    List Violation :=
  match data.get? p with
  | some value => s.entryViolations kind data (p, value)
  | none => ((s.get? p).bind fun d => s.missingViolation? data (p, d)).toList

theorem Schema.collect_ofProperty (s : Schema) (kind : String) (data : Record) (p : String) :
    (s.collect kind data).filter (fun v => v.property == p) = s.violationsOf kind data p := by
  rw [collect, List.filter_append, List.filterMap_eq_flatMap_toList,
    Entries.filter_flatMap_property data.nodup fun _ _ => property_of_mem_entryViolations,
    Entries.filter_flatMap_property s.properties.nodup property_of_mem_missing]
  change (data.get? p).elim _ _ ++ (s.get? p).elim _ _ = _
  -- A property with an entry is never missing, so one of the two loops is silent.
  cases hd : data.get? p with
  | none => cases hs : s.get? p <;> simp [violationsOf, hd, hs]
  | some value =>
    have hno : ∀ d, s.missingViolation? data (p, d) = none := by
      intro d
      rw [Option.eq_none_iff_forall_ne_some]
      intro v hv
      rw [missingViolation?_eq_some_iff] at hv
      simp [hd] at hv
    cases s.get? p <;> simp [violationsOf, hd, hno]

-- ---------------------------------------------------------------------------
-- The outcome
-- ---------------------------------------------------------------------------

theorem Schema.report_eq_none_iff (s : Schema) (kind : String) (data : Record) :
    (s.validate kind data).report = none ↔ s.collect kind (s.strip data) = [] := by
  simp [validate, Report.nonempty?, Report.isEmpty]

theorem Schema.violations_validate (s : Schema) (kind : String) (data : Record) :
    (s.validate kind data).violations = s.collect kind (s.strip data) := by
  cases h : s.collect kind (s.strip data) <;>
    simp [Outcome.violations, validate, Report.nonempty?, Report.isEmpty, h]

theorem Schema.isValid_iff (s : Schema) (kind : String) (data : Record) :
    (s.validate kind data).isValid = true ↔ (s.validate kind data).violations = [] := by
  rw [Outcome.isValid, Option.isNone_iff_eq_none, report_eq_none_iff, violations_validate]

/-- The part of a report on one property. -/
theorem Schema.violations_validate_ofProperty (s : Schema) (kind : String) (data : Record)
    (p : String) :
    (s.validate kind data).violations.filter (fun v => v.property == p) =
      s.violationsOf kind (s.strip data) p := by
  rw [violations_validate, collect_ofProperty]

theorem Schema.isVirtual_iff {s : Schema} : s.isVirtual p = true ↔ p ∈ s.virtuals.keys :=
  OrderedMap.contains_iff_mem_keys

theorem Schema.get?_strip (s : Schema) (data : Record) (p : String) :
    (s.strip data).get? p = if s.isVirtual p then none else data.get? p := by
  rw [strip, OrderedMap.get?_filterKeys]
  cases s.isVirtual p <;> rfl

theorem Schema.strip_eq (s : Schema) (data : Record) :
    s.strip data = data.filterKeys fun key => key ∉ s.virtuals.keys := by
  unfold strip
  congr 1
  funext key
  rw [Bool.eq_iff_iff]
  simp [← isVirtual_iff]

end RecordSchema
