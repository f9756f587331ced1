import RecordSchema.Proofs.Schema.Provenance
import RecordSchema.Proofs.Validation.Exactness

/-!
# Scalars as arguments and as values

The scalars that a rule declares and the values that it is asked about become texts in different
places. `declared_as_found`: they become the same texts, so a value that was declared is found,
alone or in an array, and a record that holds it passes.
-/

namespace RecordSchema

-- ---------------------------------------------------------------------------
-- One argument
-- ---------------------------------------------------------------------------

/-- A text, a number or a truth value. -/
def Json.IsScalar : Json → Prop
  | .string _ | .number _ | .bool _ => True
  | _ => False

namespace Library

/-- An argument and the value made of it have one text. -/
theorem scalarText?_eq (j : Json) : scalarText? j = (Value.ofJson j).textForm := by
  cases j <;> rfl

theorem isSome_scalarText?_iff {j : Json} : (scalarText? j).isSome = true ↔ j.IsScalar := by
  cases j <;> simp [scalarText?, Json.IsScalar]

theorem exists_scalarText? {j : Json} (h : j.IsScalar) : ∃ text, scalarText? j = some text :=
  Option.isSome_iff_exists.mp (isSome_scalarText?_iff.mpr h)

theorem scalarText?_eq_none {j : Json} (h : ¬ j.IsScalar) : scalarText? j = none := by
  rwa [← isSome_scalarText?_iff, Option.not_isSome_iff_eq_none] at h

theorem textArg_of_scalar {args : List Json} (hget : args[place]? = some j)
    (h : scalarText? j = some text) : textArg rule args place = .ok text := by
  simp [textArg, hget, h]

theorem textArg_of_not_scalar {args : List Json} (hget : args[place]? = some j)
    (h : ¬ j.IsScalar) :
    textArg rule args place = .error (.arguments rule (.notScalar place j)) := by
  simp [textArg, hget, scalarText?_eq_none h, refuse]

theorem resolve_equals_of_scalar (h : scalarText? j = some text) (rest : List Json) :
    resolve "equals" (j :: rest) = .ok (.equalTo text) := by
  have htext : textArg "equals" (j :: rest) 0 = .ok text := textArg_of_scalar rfl h
  exact congrArg (Except.map Check.equalTo) htext

theorem resolve_equals_iff {j : Json} {rest : List Json} :
    (∃ check, resolve "equals" (j :: rest) = .ok check) ↔ j.IsScalar := by
  constructor
  · rintro ⟨check, hcheck⟩
    by_contra h
    have htext : textArg "equals" (j :: rest) 0 = .error (.arguments "equals" (.notScalar 0 j)) :=
      textArg_of_not_scalar rfl h
    cases (congrArg (Except.map Check.equalTo) htext).symm.trans hcheck
  · intro h
    obtain ⟨text, htext⟩ := exists_scalarText? h
    exact ⟨_, resolve_equals_of_scalar htext rest⟩

-- ---------------------------------------------------------------------------
-- A list of options
-- ---------------------------------------------------------------------------

/-- Options one after the other, each with its place. -/
def optionsFrom (rule : String) : Nat → List Json → Except SchemaError (List String)
  | _, [] => .ok []
  | place, j :: rest =>
    match scalarText? j with
    | some text => (optionsFrom rule (place + 1) rest).map (text :: ·)
    | none => refuse rule (.notScalar place j)

/-- Options are read by their places; those that were read stand before the others. -/
theorem mapM_textArg (rule : String) (before items : List Json) :
    (List.range' before.length items.length).mapM (textArg rule (before ++ items)) =
      optionsFrom rule before.length items := by
  induction items generalizing before with
  | nil => rfl
  | cons j rest ih =>
    have hget : (before ++ j :: rest)[before.length]? = some j := by simp
    have ih : (List.range' (before.length + 1) rest.length).mapM
        (textArg rule (before ++ j :: rest)) = optionsFrom rule (before.length + 1) rest := by
      simpa using ih (before ++ [j])
    rw [List.length_cons, List.range'_succ, List.mapM_cons, ih, optionsFrom]
    by_cases h : j.IsScalar
    · obtain ⟨text, htext⟩ := exists_scalarText? h
      rw [textArg_of_scalar hget htext, htext]
      cases optionsFrom rule (before.length + 1) rest <;> rfl
    · rw [textArg_of_not_scalar hget h, scalarText?_eq_none h]
      rfl

theorem optionsFrom_of_scalars (h : ∀ j ∈ items, Json.IsScalar j) :
    optionsFrom rule place items = .ok (items.filterMap scalarText?) := by
  induction items generalizing place with
  | nil => rfl
  | cons j rest ih =>
    obtain ⟨hj, hrest⟩ := List.forall_mem_cons.mp h
    obtain ⟨text, htext⟩ := exists_scalarText? hj
    rw [optionsFrom, htext, ih hrest, List.filterMap_cons_some htext]
    rfl

/-- The first option that is no scalar is shown, with its place. -/
theorem optionsFrom_of_defect (h : ∀ j ∈ before, Json.IsScalar j) (hj : ¬ Json.IsScalar j)
    (after : List Json) : optionsFrom rule place (before ++ j :: after) =
      .error (.arguments rule (.notScalar (place + before.length) j)) := by
  induction before generalizing place with
  | nil =>
    rw [List.nil_append, optionsFrom, scalarText?_eq_none hj]
    rfl
  | cons i rest ih =>
    obtain ⟨hi, hrest⟩ := List.forall_mem_cons.mp h
    obtain ⟨text, htext⟩ := exists_scalarText? hi
    rw [List.cons_append, optionsFrom, htext, ih hrest, List.length_cons,
      Nat.add_assoc, Nat.add_comm 1]
    rfl

theorem resolve_isIn (items rest : List Json) :
    resolve "isIn" (.array items :: rest) = (optionsFrom "isIn" 0 items).map .oneOf := by
  change (List.range items.length).mapM (textArg "isIn" items) >>= _ = _
  rw [List.range_eq_range', show (List.range' 0 items.length).mapM (textArg "isIn" items) = _ from
    mapM_textArg "isIn" [] items]
  rfl

theorem resolve_isIn_of_scalars (h : ∀ j ∈ items, Json.IsScalar j) (rest : List Json) :
    resolve "isIn" (.array items :: rest) = .ok (.oneOf (items.filterMap scalarText?)) := by
  rw [resolve_isIn, optionsFrom_of_scalars h]
  rfl

theorem resolve_isIn_of_defect (h : ∀ j ∈ before, Json.IsScalar j) (hj : ¬ Json.IsScalar j)
    (after rest : List Json) : resolve "isIn" (.array (before ++ j :: after) :: rest) =
      .error (.arguments "isIn" (.notScalar before.length j)) := by
  rw [resolve_isIn, optionsFrom_of_defect h hj, Nat.zero_add]
  rfl

theorem resolve_isIn_iff {items rest : List Json} :
    (∃ check, resolve "isIn" (.array items :: rest) = .ok check) ↔
      ∀ j ∈ items, Json.IsScalar j := by
  constructor
  · rintro ⟨check, hcheck⟩
    by_contra h
    obtain ⟨before, j, after, rfl, hbefore, hj⟩ := exists_first (by simpa using h)
    cases (resolve_isIn_of_defect hbefore hj after rest).symm.trans hcheck
  · exact fun h => ⟨_, resolve_isIn_of_scalars h rest⟩

/-- An option list accepts what one of its options accepts alone. -/
theorem oneOf_accepts_iff {items : List Json} {s : String} :
    (Check.oneOf (items.filterMap scalarText?)).accepts s = true ↔
      ∃ j ∈ items, scalarText? j = some s := by
  rw [Check.accepts, List.contains_iff_mem, List.mem_filterMap]

theorem accepts_equals_iff {j : Json} {s : String} :
    accepts "equals" s [j] = .ok true ↔ scalarText? j = some s := by
  by_cases h : j.IsScalar
  · obtain ⟨text, htext⟩ := exists_scalarText? h
    rw [accepts_eq_ok_true_iff (resolve_equals_of_scalar htext []), htext, Check.accepts,
      beq_iff_eq, Option.some.injEq, eq_comm]
  · refine iff_of_false (fun haccepts => ?_) (by simp [scalarText?_eq_none h])
    cases hresolve : resolve "equals" [j] with
    | ok check => exact h (resolve_equals_iff.mp ⟨check, hresolve⟩)
    | error e =>
      rw [accepts, hresolve] at haccepts
      cases haccepts

end Library

-- ---------------------------------------------------------------------------
-- Rules
-- ---------------------------------------------------------------------------

namespace Rule

open Json (IsScalar)
open Library (scalarText?)

variable {id : String} {args : List Json} {value : Value} {data : Record}

theorem ofName_of_resolve (h : Library.resolve id args = .ok check) :
    ofName id args = .ok (.named id args check) := by
  rw [ofName, h]
  rfl

theorem evaluate_equalTo_iff : (named id args (.equalTo text)).evaluate value data = true ↔
    ∀ element ∈ value.elements, element.textForm = some text := by
  simp [evaluate_named_iff, Check.accepts]

theorem evaluate_oneOf_iff {items : List Json} :
    (named id args (.oneOf (items.filterMap scalarText?))).evaluate value data = true ↔
      ∀ element ∈ value.elements, ∃ text, element.textForm = some text ∧
        ∃ j ∈ items, scalarText? j = some text := by
  simp only [evaluate_named_iff, Library.oneOf_accepts_iff]

theorem elements_of_not_array (h : ∀ items, value ≠ .array items) : value.elements = [value] := by
  cases value with
  | array items => exact absurd rfl (h items)
  | _ => rfl

theorem elements_ofJson_of_scalar {j : Json} (h : j.IsScalar) :
    (Value.ofJson j).elements = [.ofJson j] := by
  cases j with
  | array | object | null => exact h.elim
  | _ => rfl

/-- A scalar argument takes the values that have the text of the value made of it. -/
theorem exists_equals {j : Json} (h : j.IsScalar) (rest : List Json) :
    ∃ rule text, ofName "equals" (j :: rest) = .ok rule ∧ (Value.ofJson j).textForm = some text ∧
      ∀ value data, rule.evaluate value data = true ↔
        ∀ element ∈ value.elements, element.textForm = some text := by
  obtain ⟨text, htext⟩ := Library.exists_scalarText? h
  exact ⟨_, text, ofName_of_resolve (Library.resolve_equals_of_scalar htext rest),
    Library.scalarText?_eq j ▸ htext, fun _ _ => evaluate_equalTo_iff⟩

/-- Declared options are found, alone or as the elements of an array. -/
theorem evaluate_of_declared {items rest : List Json} {rule : Rule}
    (hrule : ofName "isIn" (.array items :: rest) = .ok rule)
    (hvalue : ∀ element ∈ value.elements, ∃ j ∈ items, element = .ofJson j) :
    rule.evaluate value data = true := by
  cases hresolve : Library.resolve "isIn" (.array items :: rest) with
  | error e =>
    rw [ofName, hresolve] at hrule
    cases hrule
  | ok check =>
    have hitems := Library.resolve_isIn_iff.mp ⟨check, hresolve⟩
    cases (ofName_of_resolve (Library.resolve_isIn_of_scalars hitems rest)).symm.trans hrule
    rw [evaluate_oneOf_iff]
    intro element helement
    obtain ⟨j, hj, rfl⟩ := hvalue element helement
    obtain ⟨text, htext⟩ := Library.exists_scalarText? (hitems j hj)
    exact ⟨text, Library.scalarText?_eq j ▸ htext, j, hj, htext⟩

end Rule

-- ---------------------------------------------------------------------------
-- Records
-- ---------------------------------------------------------------------------

namespace Schema

/-- A report has nothing about a property under a code that it is not at fault under. -/
theorem code_ne_of_not_violated {s : Schema} {kind : String} {data : Record}
    (h : ¬ s.Violated (s.strip data) p c) :
    ∀ v ∈ (s.validate kind data).violations, v.property = p → v.code ≠ c := by
  have hv : ∀ key ∈ s.virtuals.keys, key ∉ (s.strip data).keys := by
    intro key hkey
    rw [← OrderedMap.get?_eq_none_iff_not_mem, get?_strip, if_pos (isVirtual_iff.mpr hkey)]
  have hnone := countP_violationsOf s kind hv p c
  rw [if_neg h, ← violations_validate_ofProperty, List.countP_eq_zero] at hnone
  intro v hmem hp
  simpa using hnone v (List.mem_filter.mpr ⟨hmem, by simpa using hp⟩)

/-- A rule that accepts the value of a property does not put the property at fault. -/
theorem not_violated_of_accepted {s : Schema} {data : Record} (hd : s.get? p = some d)
    (hrule : d.rule = some rule)
    (h : ∀ value ∈ data.get? p, ∀ kept, rule.evaluate value kept = true) :
    ¬ s.Violated (s.strip data) p .wrongValue := by
  rintro ⟨_, hd', value, hvalue, -, _, hrule', hrefuses⟩
  cases hd.symm.trans hd'
  cases hrule.symm.trans hrule'
  have hvalue : data.get? p = some value := by
    rw [Option.mem_def, get?_strip, Option.ite_none_left_eq_some] at hvalue
    exact hvalue.2
  rw [Rule.refuses_iff, h value hvalue] at hrefuses
  cases hrefuses

end Schema

namespace Rule

open Json (IsScalar)

/-- A scalar argument takes the values of its text. A list of them takes what one of them takes,
and is refused for the first option that is no scalar. A record that holds declared options is not
at fault for it. -/
theorem declared_as_found (j : Json) (items rest : List Json) :
    (j.IsScalar → ∃ rule, ofName "equals" (j :: rest) = .ok rule ∧ ∀ data,
      rule.evaluate (.ofJson j) data = true ∧
      (∀ n, rule.evaluate (.array (List.replicate n (.ofJson j))) data = true) ∧
      ∀ value, (∀ items, value ≠ .array items) → (rule.evaluate value data = true ↔
        ∃ text, value.textForm = some text ∧ (Value.ofJson j).textForm = some text)) ∧
    ((∃ check, Library.resolve "isIn" (.array items :: rest) = .ok check) ↔
      ∀ j ∈ items, ∃ check, Library.resolve "equals" [j] = .ok check) ∧
    (∀ check, Library.resolve "isIn" (.array items :: rest) = .ok check → ∀ s,
      check.accepts s = true ↔ ∃ j ∈ items, Library.accepts "equals" s [j] = .ok true) ∧
    (∀ before j after, items = before ++ j :: after → (∀ i ∈ before, IsScalar i) →
      ¬ IsScalar j → Library.resolve "isIn" (.array items :: rest) =
        .error (.arguments "isIn" (.notScalar before.length j))) ∧
    ∀ rule, ofName "isIn" (.array items :: rest) = .ok rule →
      ∀ (s : Schema) (p kind : String) (data : Record) (d : Definition),
        s.get? p = some d → d.rule = some rule →
        (∀ value ∈ data.get? p, ∀ element ∈ value.elements, ∃ j ∈ items, element = .ofJson j) →
        ∀ v ∈ (s.validate kind data).violations, v.property = p → v.code ≠ .wrongValue := by
  refine ⟨fun hj => ?_, ?_, fun check hcheck s => ?_, ?_, ?_⟩
  · obtain ⟨rule, text, hrule, hform, hevaluate⟩ := exists_equals hj rest
    refine ⟨rule, hrule, fun data => ?_⟩
    simp only [hevaluate, hform]
    refine ⟨?_, ?_, ?_⟩
    · simp [elements_ofJson_of_scalar hj, hform]
    · intro n element helement
      rw [List.eq_of_mem_replicate helement, hform]
    · intro value hvalue
      simp [elements_of_not_array hvalue]
  · simp only [Library.resolve_isIn_iff, Library.resolve_equals_iff]
  · have hitems := Library.resolve_isIn_iff.mp ⟨check, hcheck⟩
    cases (Library.resolve_isIn_of_scalars hitems rest).symm.trans hcheck
    simp only [Library.oneOf_accepts_iff, Library.accepts_equals_iff]
  · rintro before j after rfl hbefore hj
    exact Library.resolve_isIn_of_defect hbefore hj after rest
  · intro rule hrule s p kind data d hd hd' hvalue
    exact Schema.code_ne_of_not_violated (Schema.not_violated_of_accepted hd hd'
      fun value hmem kept => evaluate_of_declared hrule (hvalue value hmem))

/-- A text and a number are declared; a record holds both, the number as a number. -/
theorem declared_as_found_tag :
    let seven : Json := .number (.integer 7 (by decide))
    let rule : Rule := .named "isIn" [.array [.string "a", seven]] (.oneOf ["a", "7"])
    let tag : Definition := ⟨none, false, none, some rule, none⟩
    let data : Record := .ofEntries [("tag", .array [.ofJson seven, .ofJson (.string "a")])]
    ofName "isIn" [.array [.string "a", seven]] = .ok rule ∧
    (∀ v ∈ ((Schema.empty.declare "tag" tag).validate "note" data).violations,
      v.property = "tag" → v.code ≠ .wrongValue) ∧
    (∃ rule, ofName "equals" [seven] = .ok rule ∧
      ∀ data, rule.evaluate (.ofJson seven) data = true) ∧
    Library.resolve "isIn" [.array [seven, .null]] =
      .error (.arguments "isIn" (.notScalar 1 .null)) := by
  intro seven rule tag data
  have hrule : ofName "isIn" [.array [.string "a", seven]] = .ok rule := rfl
  obtain ⟨hequals, -, -, -, hrecord⟩ := declared_as_found seven [.string "a", seven] []
  obtain ⟨-, -, -, hdefect, -⟩ := declared_as_found seven [seven, .null] []
  refine ⟨hrule, hrecord rule hrule _ "tag" "note" data tag rfl rfl ?_, ?_,
    hdefect [seven] .null [] rfl (by simp [seven, IsScalar]) id⟩
  · rintro value ⟨⟩ element helement
    simp only [Value.elements, List.mem_cons, List.not_mem_nil, or_false] at helement
    rcases helement with rfl | rfl
    · exact ⟨seven, by simp, rfl⟩
    · exact ⟨.string "a", by simp, rfl⟩
  · obtain ⟨rule, hrule, hevaluate⟩ := hequals trivial
    exact ⟨rule, hrule, fun data => (hevaluate data).1⟩

end Rule

end RecordSchema
