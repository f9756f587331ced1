import RecordSchema.Proofs.Validation.Pass

/-!
# Exactly the violations that there are

`Schema.Violated` says, code by code and without the pass, when a property of a
record is at fault. `validate_exact`: the report of a pass has exactly one
violation for each property and code at fault and none for the others, and there
is no report exactly when nothing is at fault.
-/

namespace RecordSchema

-- ---------------------------------------------------------------------------
-- Blank values and refused values
-- ---------------------------------------------------------------------------

/-- Null, or a text with no character but white space. -/
def Value.Blank : Value → Prop
  | .null => True
  | .string s => ∀ c ∈ s.toList, Text.isBlank c = true
  | _ => False

instance (value : Value) : Decidable value.Blank :=
  match value with
  | .null => isTrue trivial
  | .string s => List.decidableBAll (fun c => Text.isBlank c = true) s.toList
  | .bool _ | .number _ | .array _ | .object _ | .int _ | .double _ | .geoPoint _ | .buffer _
  | .dateTime _ => isFalse id

theorem Value.isBlank_iff {value : Value} : value.isBlank = true ↔ value.Blank := by
  cases value <;> simp [isBlank, Blank, Text.isAllBlank]

/-- A value without a text, or with a text that fails the check. -/
def Check.Refuses (check : Check) (value : Value) : Prop :=
  value.textForm = none ∨ ∃ text ∈ value.textForm, check.accepts text = false

instance (check : Check) (value : Value) : Decidable (check.Refuses value) := by
  unfold Check.Refuses
  infer_instance

theorem Check.refuses_iff {check : Check} :
    check.Refuses value ↔ Rule.acceptsText check value = false := by
  cases h : value.textForm <;> simp [Refuses, Rule.acceptsText, h]

/-- A library check refuses an array for any element that it refuses; a predicate
is asked about the record. -/
def Rule.Refuses (rule : Rule) (value : Value) (data : Record) : Prop :=
  match rule, value with
  | .named _ _ check, .array items => ∃ item ∈ items, check.Refuses item
  | .named _ _ check, value => check.Refuses value
  | .custom predicate args, _ => predicate data args = false

instance (rule : Rule) (value : Value) (data : Record) : Decidable (rule.Refuses value data) := by
  unfold Rule.Refuses
  split <;> infer_instance

theorem Rule.refuses_iff {rule : Rule} :
    rule.Refuses value data ↔ rule.evaluate value data = false := by
  cases rule with
  | named id args check =>
    cases value with
    | array items => simp [Refuses, evaluate, Check.refuses_iff]
    | _ => exact Check.refuses_iff
  | custom predicate args => rfl

-- ---------------------------------------------------------------------------
-- Properties at fault
-- ---------------------------------------------------------------------------

/-- A property of a record, free of virtual properties, is at fault under a code. -/
def Schema.Violated (s : Schema) (kept : Record) (p : String) : ViolationCode → Prop
  | .notAllowed => p ∈ kept.keys ∧ p ∉ s.properties.keys ∧ s.options.explicitOnly = true
  | .required =>
    (∃ d ∈ s.get? p, d.required = true) ∧ p ∉ s.virtuals.keys ∧
      (p ∉ kept.keys ∨ ∃ value ∈ kept.get? p, value.Blank)
  | .wrongType =>
    ∃ d ∈ s.get? p, ∃ value ∈ kept.get? p, ¬ value.Blank ∧
      ∃ t ∈ d.type, t.admits value = false
  | .outOfRange =>
    ∃ d ∈ s.get? p, ∃ value ∈ kept.get? p, ¬ value.Blank ∧
      ∃ allowed ∈ d.values, isAllowed allowed value = false
  | .wrongValue =>
    ∃ d ∈ s.get? p, ∃ value ∈ kept.get? p, ¬ value.Blank ∧
      ∃ rule ∈ d.rule, rule.Refuses value kept

instance (s : Schema) (kept : Record) (p : String) (c : ViolationCode) :
    Decidable (s.Violated kept p c) := by
  cases c <;> unfold Schema.Violated <;> infer_instance

-- ---------------------------------------------------------------------------
-- Counting violations
-- ---------------------------------------------------------------------------

/-- Type, values and rule are judged alike: something may be declared, and what is
declared may fail. -/
theorem countP_check (declared : Option α) (passes : α → Bool) (report : α → Violation)
    (hr : ∀ a, (report a).code = own) (c : ViolationCode) :
    (declared.bind fun a => if passes a then none else some (report a)).toList.countP
        (fun v => v.code == c) =
      if own = c ∧ ∃ a ∈ declared, passes a = false then 1 else 0 := by
  cases declared with
  | none => simp
  | some a =>
    cases hp : passes a with
    | true => simp [hp]
    | false => by_cases hc : own = c <;> simp [hp, hr, hc]

theorem Definition.countP_violations_blank (d : Definition) (name : String) (data : Record)
    (hb : value.Blank) (c : ViolationCode) :
    (d.violations name value data).countP (fun v => v.code == c) =
      if .required = c ∧ d.required = true then 1 else 0 := by
  rw [violations, if_pos (Value.isBlank_iff.mpr hb)]
  cases d.required
  · simp
  · by_cases hc : .required = c <;> simp [hc, Violation.required, Violation.new]

theorem Definition.countP_violations (d : Definition) (name : String) (data : Record)
    (hb : ¬ value.Blank) (c : ViolationCode) :
    (d.violations name value data).countP (fun v => v.code == c) =
      (if .wrongType = c ∧ ∃ t ∈ d.type, t.admits value = false then 1 else 0)
        + (if .outOfRange = c ∧ ∃ allowed ∈ d.values, isAllowed allowed value = false then 1 else 0)
        + (if .wrongValue = c ∧ ∃ rule ∈ d.rule, rule.evaluate value data = false then 1
          else 0) := by
  rw [violations, if_neg (mt Value.isBlank_iff.mp hb), List.countP_append, List.countP_append]
  congr 1
  · congr 1
    · exact countP_check d.type (fun t => t.admits value) (fun t => .wrongType name t value)
        (fun _ => rfl) c
    · exact countP_check d.values (fun allowed => isAllowed allowed value)
        (fun allowed => .outOfRange name allowed) (fun _ => rfl) c
  · exact countP_check d.rule (fun rule => rule.evaluate value data)
      (fun rule => .wrongValue name value rule.name) (fun _ => rfl) c

/-- One violation for a code at fault, none for another. A record that still held a
virtual property could be at fault for it, hence `hv`. -/
theorem Schema.countP_violationsOf (s : Schema) (kind : String) {kept : Record}
    (hv : ∀ key ∈ s.virtuals.keys, key ∉ kept.keys) (p : String) (c : ViolationCode) :
    (s.violationsOf kind kept p).countP (fun v => v.code == c) =
      if s.Violated kept p c then 1 else 0 := by
  have hd : p ∈ s.properties.keys ↔ s.get? p ≠ none := by
    rw [Schema.get?, ne_eq, OrderedMap.get?_eq_none_iff_not_mem, Classical.not_not]
  have hk : p ∈ kept.keys ↔ kept.get? p ≠ none := by
    rw [ne_eq, OrderedMap.get?_eq_none_iff_not_mem, Classical.not_not]
  have hm : p ∈ s.virtuals.keys ↔ s.isVirtual p = true := OrderedMap.contains_iff_mem_keys.symm
  cases hp : kept.get? p with
  | none =>
    rw [violationsOf, hp]
    cases hs : s.get? p with
    | none => cases c <;> simp [Violated, hs, hk, hp]
    | some d =>
      cases hmiss : s.missingViolation? kept (p, d) with
      | none =>
        have hno : ¬ (d.required = true ∧ s.isVirtual p = false) := by
          intro h
          have hsome : s.missingViolation? kept (p, d) = some (.required p) :=
            missingViolation?_eq_some_iff.mpr ⟨⟨h.1, h.2, hp⟩, rfl⟩
          rw [hmiss] at hsome
          cases hsome
        cases c <;> simp [Violated, hs, hk, hp, hm, hmiss]
        simpa using hno
      | some v =>
        obtain ⟨⟨hr, hvirt, -⟩, rfl⟩ := missingViolation?_eq_some_iff.mp hmiss
        cases c <;> simp_all [Violated, Violation.required, Violation.new]
  | some value =>
    have hvirt : p ∉ s.virtuals.keys := fun h => hv p h (hk.mpr (by simp [hp]))
    rw [violationsOf, hp]
    simp only [entryViolations]
    cases hs : s.get? p with
    | none =>
      cases ho : s.options.explicitOnly <;> cases c <;>
        simp [Violated, hs, hk, hd, hp, ho, Violation.notAllowed, Violation.new]
    | some d =>
      by_cases hb : value.Blank
      · simp only [d.countP_violations_blank p kept hb c]
        cases c <;> simp [Violated, hs, hd, hk, hp, hb, hvirt]
      · simp only [d.countP_violations p kept hb c, ← Rule.refuses_iff]
        cases c <;> simp [Violated, hs, hd, hk, hp, hb]

-- ---------------------------------------------------------------------------
-- Reports
-- ---------------------------------------------------------------------------

/-- What is reported is what is at fault, once for each property and code, on the
record without the keys that are virtual in the schema. -/
theorem Schema.validate_exact (s : Schema) (kind : String) (data : Record) :
    let kept := data.filterKeys fun key => key ∉ s.virtuals.keys
    (∀ p c, (s.validate kind data).violations.countP (fun v => v.property == p && v.code == c) =
      if s.Violated kept p c then 1 else 0) ∧
    ((s.validate kind data).report = none ↔ ∀ p c, ¬ s.Violated kept p c) := by
  intro kept
  have hkept : s.strip data = kept := s.strip_eq data
  have hv : ∀ key ∈ s.virtuals.keys, key ∉ kept.keys := by
    intro key hm
    rw [← OrderedMap.get?_eq_none_iff_not_mem, OrderedMap.get?_filterKeys]
    simp [hm]
  have count : ∀ p c, (s.validate kind data).violations.countP
      (fun v => v.property == p && v.code == c) = if s.Violated kept p c then 1 else 0 := by
    intro p c
    rw [← s.countP_violationsOf kind hv p c, ← hkept, ← violations_validate_ofProperty,
      List.countP_filter]
    simp only [Bool.and_comm]
  refine ⟨count, ?_⟩
  rw [report_eq_none_iff, ← violations_validate]
  constructor
  · intro h p c hc
    have := count p c
    simp [h, hc] at this
  · intro h
    rw [List.eq_nil_iff_forall_not_mem]
    intro v hmem
    have hzero := count v.property v.code
    rw [if_neg (h v.property v.code), List.countP_eq_zero] at hzero
    simpa using hzero v hmem

end RecordSchema
