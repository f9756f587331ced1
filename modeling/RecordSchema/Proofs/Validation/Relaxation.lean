import Mathlib.Data.List.Flatten
import RecordSchema.Proofs.Validation.Pass

/-!
# Looser schemas

A schema is looser than another when it has lost some of its constraints and nothing else.
`report_relaxed`: what a looser schema reports of a record is part of what the tighter one
reports, in the same order. So no violation is hidden by another constraint.
-/

namespace RecordSchema

/-- Some constraints are dropped, and those that are left are the same. Defaults are no
constraints. -/
structure Definition.Relaxes (loose tight : Definition) : Prop where
  required : loose.required = true → tight.required = true
  type : loose.type = none ∨ loose.type = tight.type
  values : loose.values = none ∨ loose.values = tight.values
  rule : loose.rule = none ∨ loose.rule = tight.rule

/-- The same names in the same order, with looser definitions. -/
structure Schema.Relaxes (loose tight : Schema) : Prop where
  properties : Entries.Related Definition.Relaxes loose.properties.entries tight.properties.entries
  options : loose.options = tight.options
  virtuals : ∀ name, name ∈ loose.virtuals.keys ↔ name ∈ tight.virtuals.keys

-- ---------------------------------------------------------------------------
-- One definition
-- ---------------------------------------------------------------------------

theorem sublist_of_dropped {loose tight : Option α} (h : loose = none ∨ loose = tight)
    (check : α → Option β) : (loose.bind check).toList.Sublist (tight.bind check).toList := by
  rcases h with rfl | rfl
  · exact List.nil_sublist _
  · exact List.Sublist.refl _

/-- A blank value is reported where it is required, and judged by neither definition. -/
theorem Definition.Relaxes.violations {loose tight : Definition} (h : loose.Relaxes tight)
    (name : String) (value : Value) (data : Record) :
    (loose.violations name value data).Sublist (tight.violations name value data) := by
  unfold Definition.violations
  split
  · cases hrequired : loose.required with
    | false => exact List.nil_sublist _
    | true =>
      rw [h.required hrequired]
  · have htype : (loose.typeViolation? name value).toList.Sublist
        (tight.typeViolation? name value).toList := sublist_of_dropped h.type _
    have hrange : (loose.rangeViolation? name value).toList.Sublist
        (tight.rangeViolation? name value).toList := sublist_of_dropped h.values _
    have hrule : (loose.ruleViolation? name value data).toList.Sublist
        (tight.ruleViolation? name value data).toList := sublist_of_dropped h.rule _
    exact (htype.append hrange).append hrule

-- ---------------------------------------------------------------------------
-- The two loops
-- ---------------------------------------------------------------------------

theorem Entries.Related.flatMap_sublist {xs : List (String × α)} {ys : List (String × β)}
    (h : Entries.Related R xs ys) {f : String × α → List γ} {g : String × β → List γ}
    (hfg : ∀ key x y, R x y → (f (key, x)).Sublist (g (key, y))) :
    (xs.flatMap f).Sublist (ys.flatMap g) := by
  induction h with
  | nil => exact List.Sublist.refl _
  | @cons x y xs ys hxy _ ih =>
    obtain ⟨key, a⟩ := x
    obtain ⟨key', b⟩ := y
    obtain ⟨rfl, hab⟩ := hxy
    rw [List.flatMap_cons, List.flatMap_cons]
    exact (hfg key a b hab).append ih

section

variable {loose tight : Schema}

theorem Schema.Relaxes.isVirtual (h : loose.Relaxes tight) (name : String) :
    loose.isVirtual name = tight.isVirtual name := by
  rw [Bool.eq_iff_iff, isVirtual_iff, isVirtual_iff, h.virtuals]

theorem Schema.Relaxes.strip (h : loose.Relaxes tight) (data : Record) :
    loose.strip data = tight.strip data := by
  rw [Schema.strip, Schema.strip, funext h.isVirtual]

theorem Schema.Relaxes.entryViolations (h : loose.Relaxes tight) (kind : String) (data : Record)
    (entry : String × Value) :
    (loose.entryViolations kind data entry).Sublist (tight.entryViolations kind data entry) := by
  have hget : Option.Rel Definition.Relaxes (loose.get? entry.1) (tight.get? entry.1) :=
    h.properties.lookup entry.1
  unfold Schema.entryViolations
  rw [h.options]
  generalize loose.get? entry.1 = d, tight.get? entry.1 = e at hget
  cases hget with
  | none => exact List.Sublist.refl _
  | some hde => exact hde.violations entry.1 entry.2 data

theorem Schema.Relaxes.missingViolation? (h : loose.Relaxes tight) (data : Record) (name : String)
    (hde : d.Relaxes e) :
    (loose.missingViolation? data (name, d)).toList.Sublist
      (tight.missingViolation? data (name, e)).toList := by
  cases hmissing : loose.missingViolation? data (name, d) with
  | none => exact List.nil_sublist _
  | some v =>
    obtain ⟨⟨hrequired, hvirtual, hnone⟩, hv⟩ := missingViolation?_eq_some_iff.mp hmissing
    have htight : tight.missingViolation? data (name, e) = some v :=
      missingViolation?_eq_some_iff.mpr
        ⟨⟨hde.required hrequired, h.isVirtual name ▸ hvirtual, hnone⟩, hv⟩
    rw [htight]

theorem Schema.Relaxes.collect (h : loose.Relaxes tight) (kind : String) (data : Record) :
    (loose.collect kind data).Sublist (tight.collect kind data) := by
  unfold Schema.collect
  rw [List.filterMap_eq_flatMap_toList, List.filterMap_eq_flatMap_toList]
  -- Each loop goes through the same names on both sides, so the parts line up.
  have hentries := List.Sublist.flatMap_right data.entries
    fun entry _ => h.entryViolations kind data entry
  have hproperties := h.properties.flatMap_sublist
    (f := fun entry => (loose.missingViolation? data entry).toList)
    (g := fun entry => (tight.missingViolation? data entry).toList)
    fun name _ _ hde => h.missingViolation? data name hde
  exact hentries.append hproperties

end

-- ---------------------------------------------------------------------------
-- Reports
-- ---------------------------------------------------------------------------

/-- Whatever constraints are dropped, the violations that are left come in the same order, and
none is new. -/
theorem Schema.report_relaxed {loose tight : Schema} (h : loose.Relaxes tight) (kind : String)
    (data : Record) :
    (loose.validate kind data).violations.Sublist (tight.validate kind data).violations ∧
    ((tight.validate kind data).isValid = true → (loose.validate kind data).isValid = true) := by
  have hsublist :
      (loose.validate kind data).violations.Sublist (tight.validate kind data).violations := by
    rw [violations_validate, violations_validate, h.strip]
    exact h.collect kind (tight.strip data)
  refine ⟨hsublist, fun hvalid => ?_⟩
  rw [isValid_iff] at hvalid ⊢
  exact List.sublist_nil.mp (hvalid ▸ hsublist)

/-- One property keeps its type and its rule only, another is no longer required. -/
theorem Schema.report_relaxed_age_name :
    let age : Definition :=
      ⟨some .int, true, some [.string "30"], some (.named "isInt" [] .int), none⟩
    let name : Definition := ⟨some .string, true, none, none, none⟩
    let tight := (Schema.empty.declare "age" age).declare "name" name
    let loose := (Schema.empty.declare "age" { age with required := false, values := none }).declare
      "name" { name with required := false, default := some (.string "Ada") }
    let data : Record := .ofEntries [("age", .string "old")]
    loose.Relaxes tight ∧
      (loose.validate "User" data).violations.Sublist (tight.validate "User" data).violations ∧
      ((tight.validate "User" data).isValid = true →
        (loose.validate "User" data).isValid = true) := by
  intro age name tight loose data
  have hage : Definition.Relaxes { age with required := false, values := none } age :=
    ⟨nofun, .inr rfl, .inl rfl, .inr rfl⟩
  have hname :
      Definition.Relaxes { name with required := false, default := some (.string "Ada") } name :=
    ⟨nofun, .inr rfl, .inr rfl, .inr rfl⟩
  have h : loose.Relaxes tight :=
    ⟨.cons ⟨rfl, hage⟩ (.cons ⟨rfl, hname⟩ .nil), rfl, fun _ => Iff.rfl⟩
  exact ⟨h, report_relaxed h "User" data⟩

end RecordSchema
