import RecordSchema.Proofs.Validation.Pass

/-!
# Strict schemas

A schema is strict when it refuses the keys that it neither declares nor drops as virtual, and
lenient when it passes over them. `strict_adds_unknown`: a strict pass reports what the lenient
one does, in the same order, and in between each unknown key once, in the order of the record.
-/

namespace RecordSchema

-- ---------------------------------------------------------------------------
-- The code of unknown keys
-- ---------------------------------------------------------------------------

theorem Definition.code_of_mem_violations {d : Definition}
    (h : v ∈ d.violations name value data) : v.code ≠ .notAllowed := by
  obtain rfl | ⟨t, -, rfl⟩ | ⟨allowed, -, rfl⟩ | ⟨rule, -, rfl⟩ := cases_of_mem_violations h
  · exact nofun
  · exact nofun
  · exact nofun
  · exact nofun

theorem Schema.code_of_mem_missing {s : Schema}
    (h : v ∈ s.properties.entries.filterMap (s.missingViolation? data)) : v.code ≠ .notAllowed := by
  obtain ⟨entry, -, hv⟩ := List.mem_filterMap.mp h
  obtain ⟨-, rfl⟩ := missingViolation?_eq_some_iff.mp hv
  exact nofun

-- ---------------------------------------------------------------------------
-- The two loops
-- ---------------------------------------------------------------------------

section

variable (s : Schema) (kind : String) (data : Record)

/-- Strict or lenient makes a difference to the keys that are not declared. -/
theorem Schema.entryViolations_withExplicitOnly (explicitOnly : Bool) (entry : String × Value) :
    (s.withExplicitOnly explicitOnly).entryViolations kind data entry =
      match s.get? entry.1 with
      | some d => d.violations entry.1 entry.2 data
      | none => if explicitOnly then [.notAllowed entry.1 kind] else [] := rfl

theorem Schema.collect_withExplicitOnly (explicitOnly : Bool) :
    (s.withExplicitOnly explicitOnly).collect kind data =
      data.entries.flatMap ((s.withExplicitOnly explicitOnly).entryViolations kind data)
        ++ s.properties.entries.filterMap (s.missingViolation? data) := rfl

theorem Schema.filter_entryViolations_known (entry : String × Value) :
    ((s.withExplicitOnly true).entryViolations kind data entry).filter
        (fun v => v.code != .notAllowed) =
      (s.withExplicitOnly false).entryViolations kind data entry := by
  rw [entryViolations_withExplicitOnly, entryViolations_withExplicitOnly]
  cases s.get? entry.1 with
  | none => rfl
  | some d =>
    rw [List.filter_eq_self]
    intro v hv
    simpa using Definition.code_of_mem_violations hv

theorem Schema.filter_collect_known :
    ((s.withExplicitOnly true).collect kind data).filter (fun v => v.code != .notAllowed) =
      (s.withExplicitOnly false).collect kind data := by
  have hmissing : (s.properties.entries.filterMap (s.missingViolation? data)).filter
      (fun v => v.code != .notAllowed) =
        s.properties.entries.filterMap (s.missingViolation? data) := by
    rw [List.filter_eq_self]
    intro v hv
    simpa using code_of_mem_missing hv
  rw [collect_withExplicitOnly, collect_withExplicitOnly, List.filter_append, hmissing,
    List.filter_flatMap, funext (s.filter_entryViolations_known kind data)]

theorem Schema.filter_entryViolations_unknown (entry : String × Value) :
    ((s.withExplicitOnly true).entryViolations kind data entry).filter
        (fun v => v.code == .notAllowed) =
      if entry.1 ∈ s.properties.keys then [] else [.notAllowed entry.1 kind] := by
  rw [entryViolations_withExplicitOnly]
  cases hd : s.get? entry.1 with
  | none =>
    rw [if_neg (OrderedMap.get?_eq_none_iff_not_mem.mp hd)]
    rfl
  | some d =>
    rw [if_pos (OrderedMap.mem_keys_iff.mpr ⟨d, hd⟩), List.filter_eq_nil_iff]
    intro v hv
    simpa using Definition.code_of_mem_violations hv

theorem Schema.filter_flatMap_unknown (entries : List (String × Value)) :
    (entries.flatMap ((s.withExplicitOnly true).entryViolations kind data)).filter
        (fun v => v.code == .notAllowed) =
      ((entries.map Prod.fst).filter fun key => key ∉ s.properties.keys).map
        fun key => .notAllowed key kind := by
  induction entries with
  | nil => rfl
  | cons entry rest ih =>
    rw [List.flatMap_cons, List.filter_append, ih, filter_entryViolations_unknown, List.map_cons]
    by_cases hkey : entry.1 ∈ s.properties.keys
    · rw [if_pos hkey, List.filter_cons_of_neg (by simpa using hkey), List.nil_append]
    · rw [if_neg hkey, List.filter_cons_of_pos (by simpa using hkey), List.map_cons]
      rfl

theorem Schema.filter_collect_unknown :
    ((s.withExplicitOnly true).collect kind data).filter (fun v => v.code == .notAllowed) =
      (data.keys.filter fun key => key ∉ s.properties.keys).map fun key => .notAllowed key kind := by
  have hmissing : (s.properties.entries.filterMap (s.missingViolation? data)).filter
      (fun v => v.code == .notAllowed) = [] := by
    rw [List.filter_eq_nil_iff]
    intro v hv
    simpa using code_of_mem_missing hv
  rw [collect_withExplicitOnly, List.filter_append, hmissing, List.append_nil,
    filter_flatMap_unknown]
  rfl

end

-- ---------------------------------------------------------------------------
-- Reports
-- ---------------------------------------------------------------------------

/-- A strict schema adds the unknown keys to the report of the lenient one, each where it comes
in the record, and nothing else. -/
theorem Schema.strict_adds_unknown (s : Schema) (kind : String) (data : Record) :
    let strict := ((s.withExplicitOnly true).validate kind data).violations
    let lenient := ((s.withExplicitOnly false).validate kind data).violations
    let unknown := (strict.filter fun v => v.code == .notAllowed).map Violation.property
    (strict.filter fun v => v.code != .notAllowed) = lenient ∧
    (∀ v ∈ lenient, v.code ≠ .notAllowed) ∧
    unknown = (data.keys.filter fun key => key ∉ s.properties.keys ∧ key ∉ s.virtuals.keys) ∧
    unknown.Nodup := by
  intro strict lenient unknown
  -- Neither option has a part in what is virtual.
  have hstrict : strict = (s.withExplicitOnly true).collect kind (s.strip data) :=
    violations_validate _ kind data
  have hlenient : lenient = (s.withExplicitOnly false).collect kind (s.strip data) :=
    violations_validate _ kind data
  have hknown : (strict.filter fun v => v.code != .notAllowed) = lenient := by
    rw [hstrict, hlenient, filter_collect_known]
  have hunknown : unknown =
      data.keys.filter fun key => key ∉ s.properties.keys ∧ key ∉ s.virtuals.keys := by
    have hproperty : Violation.property ∘ (fun key => Violation.notAllowed key kind) = id := rfl
    simp only [unknown]
    rw [hstrict, filter_collect_unknown, List.map_map, hproperty, List.map_id, strip_eq,
      OrderedMap.keys_filterKeys, List.filter_filter]
    simp only [Bool.decide_and]
  refine ⟨hknown, fun v hv => ?_, hunknown, ?_⟩
  · rw [← hknown, List.mem_filter] at hv
    simpa using hv.2
  · rw [hunknown]
    exact data.nodup.filter _

end RecordSchema
