import RecordSchema.Proofs.Validation.Pass

/-!
# Violations are local

`report_local`: what a report says of a property is settled by the property's own
value and declaration. Other keys, other declarations, defaults and both orders
have no part in it, unless a predicate reads the whole record. The kind of the
record is named in messages only.
-/

namespace RecordSchema

def Rule.IsCustom : Rule → Prop
  | .named .. => False
  | .custom .. => True

/-- Two schemas declare the same of a property, its default aside. -/
structure Schema.AgreesOn (s t : Schema) (p : String) : Prop where
  isVirtual : s.isVirtual p = t.isVirtual p
  explicitOnly : s.options.explicitOnly = t.options.explicitOnly
  definition : (s.get? p).map Definition.judged = (t.get? p).map Definition.judged

/-- No predicate judges the property: it has a check of the library, or no rule. -/
def Schema.RuledByLibrary (s : Schema) (p : String) : Prop :=
  ∀ d ∈ s.get? p, ∀ rule ∈ d.rule, ¬ rule.IsCustom

-- ---------------------------------------------------------------------------
-- One property in two runs
-- ---------------------------------------------------------------------------

theorem Rule.evaluate_congr {rule : Rule} (h : ¬ rule.IsCustom) (data other : Record) :
    rule.evaluate value data = rule.evaluate value other := by
  cases rule with
  | named => rfl
  | custom => exact absurd trivial h

theorem Schema.AgreesOn.cases {s t : Schema} (h : s.AgreesOn t p) :
    (s.get? p = none ∧ t.get? p = none) ∨
      ∃ d e, s.get? p = some d ∧ t.get? p = some e ∧ d.judged = e.judged := by
  have hdef := h.definition
  cases hs : s.get? p with
  | none =>
    cases ht : t.get? p with
    | none => exact .inl ⟨rfl, rfl⟩
    | some e => simp [hs, ht] at hdef
  | some d =>
    cases ht : t.get? p with
    | none => simp [hs, ht] at hdef
    | some e => exact .inr ⟨d, e, rfl, rfl, by simpa [hs, ht] using hdef⟩

theorem Schema.entryViolations_congr {s t : Schema} (h : s.AgreesOn t p)
    (hr : s.RuledByLibrary p) (kind : String) (data other : Record) :
    s.entryViolations kind data (p, value) = t.entryViolations kind other (p, value) := by
  rcases h.cases with ⟨hs, ht⟩ | ⟨d, e, hs, ht, hj⟩
  · simp only [entryViolations, hs, ht, h.explicitOnly]
  · simp only [entryViolations, hs, ht]
    exact Definition.violations_congr hj fun rule hrule =>
      rule.evaluate_congr (hr d hs rule hrule) data other

theorem Schema.missing_congr {s t : Schema} (h : s.AgreesOn t p)
    (hd : data.get? p = other.get? p) :
    ((s.get? p).bind fun d => s.missingViolation? data (p, d)) =
      (t.get? p).bind fun e => t.missingViolation? other (p, e) := by
  rcases h.cases with ⟨hs, ht⟩ | ⟨d, e, hs, ht, hj⟩
  · rw [hs, ht]; rfl
  · have hreq : d.required = e.required := congrArg (·.required) hj
    rw [hs, ht, Option.bind_some, Option.bind_some, missingViolation?, missingViolation?,
      OrderedMap.contains, OrderedMap.contains, hreq, h.isVirtual, hd]

theorem Schema.violationsOf_congr {s t : Schema} (h : s.AgreesOn t p) (hr : s.RuledByLibrary p)
    (kind : String) (hd : data.get? p = other.get? p) :
    s.violationsOf kind data p = t.violationsOf kind other p := by
  rw [violationsOf, violationsOf, hd, missing_congr h hd]
  cases other.get? p with
  | none => rfl
  | some value => exact entryViolations_congr h hr kind data other

-- ---------------------------------------------------------------------------
-- Two kinds
-- ---------------------------------------------------------------------------

/-- A violation without its message. -/
def Violation.summary (v : Violation) : String × ViolationCode × OrderedMap Json :=
  (v.property, v.code, v.params)

theorem Schema.summary_entryViolations (s : Schema) (kind other : String) (data : Record)
    (entry : String × Value) :
    (s.entryViolations kind data entry).map Violation.summary =
      (s.entryViolations other data entry).map Violation.summary := by
  simp only [entryViolations]
  split
  · rfl
  · split <;> rfl

theorem Schema.summary_collect (s : Schema) (kind other : String) (data : Record) :
    (s.collect kind data).map Violation.summary = (s.collect other data).map Violation.summary := by
  rw [collect, collect, List.map_append, List.map_append, List.map_flatMap, List.map_flatMap]
  congr 2
  funext entry
  exact s.summary_entryViolations kind other data entry

-- ---------------------------------------------------------------------------
-- Reports
-- ---------------------------------------------------------------------------

/-- Runs that agree on a property report the same of it, to the last detail. Runs
that differ in the kind only differ in messages only. -/
theorem Schema.report_local :
    (∀ (s t : Schema) (kind : String) (data other : Record) (p : String),
      s.AgreesOn t p → data.get? p = other.get? p → s.RuledByLibrary p →
      (s.validate kind data).violations.filter (fun v => v.property == p) =
        (t.validate kind other).violations.filter (fun v => v.property == p)) ∧
    (∀ (s : Schema) (kind other : String) (data : Record),
      (s.validate kind data).violations.map Violation.summary =
        (s.validate other data).violations.map Violation.summary) := by
  refine ⟨?_, ?_⟩
  · intro s t kind data other p h hd hr
    have hkept : (s.strip data).get? p = (t.strip other).get? p := by
      rw [get?_strip, get?_strip, h.isVirtual, hd]
    rw [violations_validate_ofProperty, violations_validate_ofProperty]
    exact violationsOf_congr h hr kind hkept
  · intro s kind other data
    rw [violations_validate, violations_validate]
    exact s.summary_collect kind other (s.strip data)

/-- A default, another declaration and other keys in front change nothing. -/
theorem Schema.report_local_age :
    let age : Definition := ⟨some .int, true, none, some (.named "isInt" [] .int), none⟩
    let name : Definition := ⟨some .string, true, none, none, none⟩
    let s := Schema.empty.declare "age" age
    let t := (Schema.empty.declare "name" name).declare "age" { age with default := some .null }
    let data : Record := .ofEntries [("age", .string "old")]
    let other : Record := .ofEntries [("nick", .null), ("age", .string "old")]
    (s.AgreesOn t "age" ∧ data.get? "age" = other.get? "age" ∧ s.RuledByLibrary "age") ∧
      (s.validate "User" data).violations.filter (fun v => v.property == "age") =
        (t.validate "User" other).violations.filter (fun v => v.property == "age") := by
  intro age name s t data other
  have h : s.AgreesOn t "age" := ⟨rfl, rfl, rfl⟩
  have hr : s.RuledByLibrary "age" := by
    intro d hd rule hrule
    cases hd
    cases hrule
    exact id
  exact ⟨⟨h, rfl, hr⟩, report_local.1 s t "User" data other "age" h rfl hr⟩

end RecordSchema
