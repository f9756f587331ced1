import RecordSchema.Proofs.Validation.Exactness
import RecordSchema.Proofs.Validation.Locality

/-!
# A blank value is no value

`blank_is_absent`: to a schema without predicates it is the same whether a declared property is
left out of a record, or has a blank value in it, wherever that is. The property is then missed
once, if it is required and not virtual, and all else is reported as before.
-/

namespace RecordSchema

/-- The record without a property, or with a blank value of it: where the property was, or at
another place. -/
inductive Record.Emptied (data : Record) (p : String) : Record → Prop where
  | erased : Emptied data p (data.erase p)
  | inPlace (blank : value.Blank) : Emptied data p (data.insert p value)
  | moved (i : Nat) (blank : value.Blank) : Emptied data p (data.insertIdx i p value)

namespace Record.Emptied

theorem erase_eq {data : Record} (h : data.Emptied p one) : one.erase p = data.erase p := by
  cases h with
  | erased => exact data.erase_erase p
  | inPlace _ => exact data.erase_insert p _
  | moved i _ => exact data.erase_insertIdx i p _

theorem blank {data : Record} (h : data.Emptied p one) : ∀ value ∈ one.get? p, value.Blank := by
  cases h with
  | erased =>
    rw [OrderedMap.get?_erase_self]
    exact nofun
  | inPlace hblank =>
    rw [OrderedMap.get?_insert_self]
    rintro _ ⟨⟩
    exact hblank
  | moved i hblank =>
    rw [OrderedMap.get?_insertIdx_self]
    rintro _ ⟨⟩
    exact hblank

end Record.Emptied

-- ---------------------------------------------------------------------------
-- The other properties
-- ---------------------------------------------------------------------------

theorem OrderedMap.get?_congr_of_erase {one other : OrderedMap α} (h : one.erase p = other.erase p)
    (hq : q ≠ p) : one.get? q = other.get? q := by
  rw [← one.get?_erase_of_ne hq, h, other.get?_erase_of_ne hq]

section

variable {s : Schema} {one other : Record}

theorem Schema.entryViolations_of_library (hrules : ∀ q, s.RuledByLibrary q) (kind : String)
    (one other : Record) : s.entryViolations kind one = s.entryViolations kind other := by
  funext entry
  exact entryViolations_congr ⟨rfl, rfl, rfl⟩ (hrules entry.1) kind one other

theorem Schema.missingViolation?_congr (h : one.get? entry.1 = other.get? entry.1) :
    s.missingViolation? one entry = s.missingViolation? other entry := by
  rw [missingViolation?, missingViolation?, OrderedMap.contains, OrderedMap.contains, h]

/-- What is reported of the others does not depend on the entry of one property. -/
theorem Schema.collect_others (hrules : ∀ q, s.RuledByLibrary q)
    (h : one.erase p = other.erase p) (kind : String) :
    (s.collect kind one).filter (fun v => v.property != p) =
      (s.collect kind other).filter fun v => v.property != p := by
  -- Without the property, each loop goes through the same entries and answers the same of them.
  have hreport : ∀ entry, ∀ v ∈ s.entryViolations kind other entry, v.property = entry.1 :=
    fun _ _ => property_of_mem_entryViolations
  have hentries : (one.entries.filter fun entry => entry.1 != p) =
      other.entries.filter fun entry => entry.1 != p := congrArg OrderedMap.entries h
  have hmissing : ∀ entry ∈ s.properties.entries.filter (fun entry => entry.1 != p),
      (s.missingViolation? one entry).toList = (s.missingViolation? other entry).toList := by
    intro entry hentry
    have hne : entry.1 ≠ p := by simpa using (List.mem_filter.mp hentry).2
    rw [missingViolation?_congr (OrderedMap.get?_congr_of_erase h hne)]
  simp only [collect, List.filter_append, List.filterMap_eq_flatMap_toList,
    entryViolations_of_library hrules kind one other,
    Entries.filter_flatMap_report hreport (· != p),
    Entries.filter_flatMap_report property_of_mem_missing (· != p)]
  rw [hentries, List.flatMap_congr hmissing]

end

-- ---------------------------------------------------------------------------
-- The property itself
-- ---------------------------------------------------------------------------

/-- Virtual properties are left out by the time that a blank value is judged. -/
theorem Schema.violationsOf_blank {s : Schema} (hd : s.get? p = some d)
    (hvirtual : s.isVirtual p = true → data.get? p = none)
    (hblank : ∀ value ∈ data.get? p, value.Blank) (kind : String) :
    s.violationsOf kind data p =
      if d.required = true ∧ s.isVirtual p = false then [.required p] else [] := by
  cases hvalue : data.get? p with
  | none =>
    rw [violationsOf, hvalue, hd]
    simp only [Option.bind_some, missingViolation?, OrderedMap.contains, hvalue]
    cases d.required <;> cases s.isVirtual p <;> rfl
  | some value =>
    have hkept : s.isVirtual p = false := by
      rw [← Bool.not_eq_true]
      intro htrue
      rw [hvirtual htrue] at hvalue
      cases hvalue
    rw [violationsOf, hvalue]
    simp only [entryViolations, hd, Definition.violations, hkept, and_true,
      Value.isBlank_iff.mpr (hblank value hvalue), if_true]

theorem Schema.violationsOf_emptied {s : Schema} (hd : s.get? p = some d) {data : Record}
    (h : data.Emptied p one) (kind : String) :
    s.violationsOf kind (s.strip one) p =
      if d.required = true ∧ p ∉ s.virtuals.keys then [.required p] else [] := by
  have hvirtual : s.isVirtual p = true → (s.strip one).get? p = none := by
    intro htrue
    rw [get?_strip, if_pos htrue]
  have hblank : ∀ value ∈ (s.strip one).get? p, value.Blank := by
    rw [get?_strip]
    split
    · exact nofun
    · exact h.blank
  rw [violationsOf_blank hd hvirtual hblank]
  simp only [← isVirtual_iff, Bool.not_eq_true]

-- ---------------------------------------------------------------------------
-- Reports
-- ---------------------------------------------------------------------------

theorem Schema.erase_strip (s : Schema) (data : Record) (p : String) :
    (s.strip data).erase p = s.strip (data.erase p) :=
  OrderedMap.filterKeys_comm data _ _

theorem perm_of_filter_eq {xs ys : List α} (p : α → Bool) (h : xs.filter p = ys.filter p)
    (hnot : (xs.filter fun x => !p x) = ys.filter fun x => !p x) : xs.Perm ys := by
  refine (List.filter_append_perm p xs).symm.trans ?_
  rw [h, hnot]
  exact List.filter_append_perm p ys

/-- However a property is emptied, the reports hold the same violations, those of the others in
the same order; of the property itself they only say that it is required. -/
theorem Schema.blank_is_absent (s : Schema) (kind : String) (hrules : ∀ q, s.RuledByLibrary q)
    (hd : s.get? p = some d) (data : Record) (hone : data.Emptied p one)
    (hother : data.Emptied p other) :
    (s.validate kind one).violations.Perm (s.validate kind other).violations ∧
    ((s.validate kind one).violations.filter fun v => v.property != p) =
      ((s.validate kind other).violations.filter fun v => v.property != p) ∧
    ((s.validate kind one).violations.filter fun v => v.property == p) =
      if d.required = true ∧ p ∉ s.virtuals.keys then [.required p] else [] := by
  have hothers : ((s.validate kind one).violations.filter fun v => v.property != p) =
      (s.validate kind other).violations.filter fun v => v.property != p := by
    have hstrip : (s.strip one).erase p = (s.strip other).erase p := by
      rw [erase_strip, erase_strip, hone.erase_eq, hother.erase_eq]
    rw [violations_validate, violations_validate]
    exact collect_others hrules hstrip kind
  have hown : ∀ {record : Record}, data.Emptied p record →
      ((s.validate kind record).violations.filter fun v => v.property == p) =
        if d.required = true ∧ p ∉ s.virtuals.keys then [.required p] else [] := by
    intro record h
    rw [violations_validate_ofProperty, violationsOf_emptied hd h]
  refine ⟨perm_of_filter_eq _ ?_ hothers, hothers, hown hone⟩
  rw [hown hone, hown hother]

/-- A required age is taken out of the middle of a record, or put blank at its end. -/
theorem Schema.blank_is_absent_age :
    let age : Definition := ⟨some .int, true, some [], some (.named "isInt" [] .int), none⟩
    let s := (Schema.empty.declare "age" age).declare "name" ⟨some .string, true, none, none, none⟩
    let data : Record := .ofEntries [("nick", .null), ("age", .string "old"), ("name", .string " ")]
    let one := data.erase "age"
    let other := data.insertIdx 2 "age" (.string "\u3000\t")
    ((∀ q, s.RuledByLibrary q) ∧ s.get? "age" = some age ∧ data.Emptied "age" one ∧
      data.Emptied "age" other) ∧
      (s.validate "User" one).violations.Perm (s.validate "User" other).violations ∧
      ((s.validate "User" one).violations.filter fun v => v.property != "age") =
        ((s.validate "User" other).violations.filter fun v => v.property != "age") ∧
      ((s.validate "User" one).violations.filter fun v => v.property == "age") =
        if age.required = true ∧ "age" ∉ s.virtuals.keys then [.required "age"] else [] := by
  intro age s data one other
  have hrules : ∀ q, s.RuledByLibrary q := by
    intro q d hd rule hrule
    have hmem : (q, d) ∈ s.properties.entries := Entries.mem_of_lookup hd
    obtain ⟨⟩ | ⟨_, ⟨⟩ | ⟨_, ⟨⟩⟩⟩ := hmem
    · cases hrule
      exact id
    · cases hrule
  have hone : data.Emptied "age" one := .erased
  have hblank : Value.Blank (.string "\u3000\t") := by decide
  have hother : data.Emptied "age" other := .moved 2 hblank
  exact ⟨⟨hrules, rfl, hone, hother⟩,
    blank_is_absent s "User" hrules rfl data hone hother⟩

end RecordSchema
