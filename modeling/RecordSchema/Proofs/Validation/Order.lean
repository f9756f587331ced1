import RecordSchema.Proofs.Validation.Pass

/-!
# Orders do not matter

`report_reordered`: a record whose entries come in another order, judged by a schema whose
declarations come in another order, has the same violations in another order, and those of
any one property even in the same order. Predicates are asked to ignore the order of entries
as well; library checks see no order.
-/

namespace RecordSchema

-- ---------------------------------------------------------------------------
-- Maps with the same entries
-- ---------------------------------------------------------------------------

theorem OrderedMap.get?_perm {m n : OrderedMap α} (h : m.entries.Perm n.entries) (key : String) :
    m.get? key = n.get? key :=
  Entries.lookup_perm m.nodup h key

theorem OrderedMap.contains_perm {m n : OrderedMap α} (h : m.entries.Perm n.entries)
    (key : String) : m.contains key = n.contains key := by
  rw [contains, contains, get?_perm h]

-- ---------------------------------------------------------------------------
-- Reorderings
-- ---------------------------------------------------------------------------

/-- The same declarations, options and virtual properties, in any order. -/
structure Schema.Reordered (s t : Schema) : Prop where
  properties : s.properties.entries.Perm t.properties.entries
  options : s.options = t.options
  virtuals : s.virtuals.entries.Perm t.virtuals.entries

/-- A predicate that answers the same of a record in any order. -/
def Rule.IgnoresOrder : Rule → Prop
  | .named .. => True
  | .custom predicate args =>
    ∀ data other : Record, data.entries.Perm other.entries →
      predicate data args = predicate other args

/-- Every rule of the schema ignores the order of entries. -/
def Schema.IgnoresOrder (s : Schema) : Prop :=
  ∀ p, ∀ d ∈ s.get? p, ∀ rule ∈ d.rule, rule.IgnoresOrder

theorem Rule.evaluate_perm {rule : Rule} (h : rule.IgnoresOrder) {data other : Record}
    (hdata : data.entries.Perm other.entries) (value : Value) :
    rule.evaluate value data = rule.evaluate value other := by
  cases rule with
  | named => rfl
  | custom predicate args => exact h data other hdata

section

variable {s t : Schema} {data other : Record}

theorem Schema.Reordered.get? (h : s.Reordered t) (p : String) : s.get? p = t.get? p :=
  OrderedMap.get?_perm h.properties p

theorem Schema.Reordered.isVirtual (h : s.Reordered t) (p : String) :
    s.isVirtual p = t.isVirtual p :=
  OrderedMap.contains_perm h.virtuals p

theorem Schema.Reordered.strip (h : s.Reordered t) (hdata : data.entries.Perm other.entries) :
    (s.strip data).entries.Perm (t.strip other).entries := by
  rw [Schema.strip, Schema.strip, funext h.isVirtual]
  exact hdata.filter _

-- ---------------------------------------------------------------------------
-- The two loops
-- ---------------------------------------------------------------------------

theorem Schema.Reordered.entryViolations (h : s.Reordered t) (hrules : s.IgnoresOrder)
    (hdata : data.entries.Perm other.entries) (kind : String) (entry : String × Value) :
    s.entryViolations kind data entry = t.entryViolations kind other entry := by
  rw [Schema.entryViolations, Schema.entryViolations, ← h.get?, h.options]
  cases hd : s.get? entry.1 with
  | none => rfl
  | some d =>
    exact Definition.violations_congr rfl fun rule hrule =>
      Rule.evaluate_perm (hrules entry.1 d hd rule hrule) hdata entry.2

theorem Schema.Reordered.missingViolation? (h : s.Reordered t)
    (hdata : data.entries.Perm other.entries) (entry : String × Definition) :
    s.missingViolation? data entry = t.missingViolation? other entry := by
  rw [Schema.missingViolation?, Schema.missingViolation?, h.isVirtual,
    OrderedMap.contains_perm hdata]

theorem Schema.Reordered.collect (h : s.Reordered t) (hrules : s.IgnoresOrder)
    (hdata : data.entries.Perm other.entries) (kind : String) :
    (s.collect kind data).Perm (t.collect kind other) := by
  rw [Schema.collect, Schema.collect, funext (h.entryViolations hrules hdata kind),
    funext (h.missingViolation? hdata)]
  exact (hdata.flatMap_right _).append (h.properties.filterMap _)

theorem Schema.Reordered.violationsOf (h : s.Reordered t) (hrules : s.IgnoresOrder)
    (hdata : data.entries.Perm other.entries) (kind p : String) :
    s.violationsOf kind data p = t.violationsOf kind other p := by
  rw [Schema.violationsOf, Schema.violationsOf, OrderedMap.get?_perm hdata, h.get?,
    funext (h.entryViolations hrules hdata kind), funext (h.missingViolation? hdata)]

end

-- ---------------------------------------------------------------------------
-- Reports
-- ---------------------------------------------------------------------------

/-- Violations move with the entries and declarations that they are about, and those of one
property stay together in their order. -/
theorem Schema.report_reordered (s t : Schema) (kind : String) (data other : Record)
    (h : s.Reordered t) (hdata : data.entries.Perm other.entries) (hrules : s.IgnoresOrder) :
    (t.validate kind other).violations.Perm (s.validate kind data).violations ∧
    (∀ p, (t.validate kind other).violations.filter (fun v => v.property == p) =
      (s.validate kind data).violations.filter fun v => v.property == p) ∧
    ((t.validate kind other).isValid = true ↔ (s.validate kind data).isValid = true) := by
  have hkept := h.strip hdata
  have hperm : (t.validate kind other).violations.Perm (s.validate kind data).violations := by
    rw [violations_validate, violations_validate]
    exact (h.collect hrules hkept kind).symm
  refine ⟨hperm, fun p => ?_, ?_⟩
  · rw [violations_validate_ofProperty, violations_validate_ofProperty]
    exact (h.violationsOf hrules hkept kind p).symm
  · rw [Outcome.isValid, Outcome.isValid, Option.isNone_iff_eq_none, Option.isNone_iff_eq_none,
      report_eq_none_iff, report_eq_none_iff, ← violations_validate, ← violations_validate]
    exact ⟨fun hnil => List.perm_nil.mp (hnil ▸ hperm.symm),
      fun hnil => List.perm_nil.mp (hnil ▸ hperm)⟩

/-- The rule of one property asks for the other, wherever it is. -/
theorem Schema.report_reordered_name_age :
    let name : Definition :=
      ⟨some .string, true, none, some (.custom (fun data _ => data.contains "age") []), none⟩
    let age : Definition := ⟨some .int, true, none, some (.named "isInt" [] .int), none⟩
    let s := (Schema.empty.declare "name" name).declare "age" age
    let t := (Schema.empty.declare "age" age).declare "name" name
    let data : Record := .ofEntries [("age", .string "old"), ("nick", .null)]
    let other : Record := .ofEntries [("nick", .null), ("age", .string "old")]
    (s.Reordered t ∧ data.entries.Perm other.entries ∧ s.IgnoresOrder) ∧
      (t.validate "User" other).violations.Perm (s.validate "User" data).violations ∧
      (∀ p, (t.validate "User" other).violations.filter (fun v => v.property == p) =
        (s.validate "User" data).violations.filter fun v => v.property == p) ∧
      ((t.validate "User" other).isValid = true ↔ (s.validate "User" data).isValid = true) := by
  intro name age s t data other
  have hs : s.Reordered t := ⟨(List.reverse_perm _).symm, rfl, .refl _⟩
  have hdata : data.entries.Perm other.entries := (List.reverse_perm _).symm
  have hrules : s.IgnoresOrder := by
    intro p d hd rule hrule
    have hmem : (p, d) ∈ [("name", name), ("age", age)] := Entries.mem_of_lookup hd
    simp only [List.mem_cons, Prod.mk.injEq, List.not_mem_nil, or_false] at hmem
    obtain ⟨-, rfl⟩ | ⟨-, rfl⟩ := hmem
    · cases hrule
      exact fun data other h => OrderedMap.contains_perm h "age"
    · cases hrule
      trivial
  exact ⟨⟨hs, hdata, hrules⟩, report_reordered s t "User" data other hs hdata hrules⟩

end RecordSchema
