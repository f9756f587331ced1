import RecordSchema.Rule.Library

/-!
# Bounds of a length

A length takes its bounds in their places or by name. Both ways give the same check or the same
refusal, and the bounds of a check that resolved are in order, so that it accepts some text
(`length_forms`).
-/

namespace RecordSchema

-- ---------------------------------------------------------------------------
-- Texts within bounds
-- ---------------------------------------------------------------------------

namespace Check

/-- When both bounds are set, the lower one is not above the upper one. -/
def InOrder (min max : Option Nat) : Prop := ∀ low ∈ min, ∀ high ∈ max, low ≤ high

theorem length_accepts_iff {min max : Option Nat} {s : String} :
    (length min max).accepts s = true ↔
      (∀ low ∈ min, low ≤ s.length) ∧ ∀ high ∈ max, s.length ≤ high := by
  simp [accepts, isWithin, Option.all_eq_true, String.length_toList]

/-- Bounds in order are themselves within bounds. -/
theorem InOrder.accepts {min max : Option Nat} {s : String} (h : InOrder min max)
    (hs : min = some s.length ∨ max = some s.length) : (length min max).accepts s = true := by
  rw [length_accepts_iff]
  rcases hs with rfl | rfl
  · exact ⟨by simp, h _ rfl⟩
  · exact ⟨fun low hlow => h low hlow _ rfl, by simp⟩

theorem InOrder.exists_accepts {min max : Option Nat} (h : InOrder min max) :
    ∃ s, (length min max).accepts s = true := by
  cases min with
  | none => exact ⟨"", length_accepts_iff.mpr ⟨nofun, fun _ _ => Nat.zero_le _⟩⟩
  | some low =>
    have hlength : (String.ofList (List.replicate low 'a')).length = low := by simp
    exact ⟨_, h.accepts (.inl (congrArg some hlength.symm))⟩

end Check

-- ---------------------------------------------------------------------------
-- Arguments
-- ---------------------------------------------------------------------------

namespace Library

open Check (InOrder)

/-- The two bounds that arguments give. What stands behind them is ignored, and so are the other
names of an object. -/
inductive GivesBounds : List Json → Option Json → Option Json → Prop
  | none : GivesBounds [] none none
  | min (ha : ∀ fields, a ≠ .object fields) : GivesBounds [a] (some a) none
  | both (ha : ∀ fields, a ≠ .object fields) : GivesBounds (a :: b :: rest) (some a) (some b)
  | named (hmin : fields.lookup "min" = a) (hmax : fields.lookup "max" = b) :
      GivesBounds (.object fields :: rest) a b

/-- A bound that is not set, or a natural number of 64 bits in integer notation. -/
inductive IsBound : Option Json → Option Nat → Prop
  | absent : IsBound none none
  | null : IsBound (some .null) none
  | length {n : Nat} (hrange : Int64Or n) : IsBound (some (.number (.integer n hrange))) (some n)

/-- Why two bounds are refused: the lower one is judged first, and their order last. -/
inductive BoundsDefect : Option Json → Option Json → SchemaError → Prop
  | min (ha : ∀ bound, ¬ IsBound (some a) bound) :
      BoundsDefect (some a) b (.arguments "isLength" (.notLength a))
  | max {min : Option Nat} (ha : IsBound a min) (hb : ∀ bound, ¬ IsBound (some b) bound) :
      BoundsDefect a (some b) (.arguments "isLength" (.notLength b))
  | order (ha : IsBound a (some low)) (hb : IsBound b (some high)) (h : high < low) :
      BoundsDefect a b (.arguments "isLength" (.minAboveMax low high))

/-- The check of two bounds, wherever they were written. -/
def checkBetween (a b : Option Json) : Except SchemaError Check := do
  let min ← lengthArg "isLength" a
  let max ← lengthArg "isLength" b
  match min, max with
  | some low, some high =>
    if high < low then refuse "isLength" (.minAboveMax low high) else .ok (.length min max)
  | _, _ => .ok (.length min max)

theorem exists_givesBounds (args : List Json) : ∃ a b, GivesBounds args a b := by
  cases args with
  | nil => exact ⟨_, _, .none⟩
  | cons a rest =>
    cases a with
    | object fields => exact ⟨_, _, .named rfl rfl⟩
    | _ =>
      cases rest with
      | nil => exact ⟨_, _, .min nofun⟩
      | cons b rest => exact ⟨_, _, .both nofun⟩

theorem GivesBounds.lengthCheck (h : GivesBounds args a b) :
    lengthCheck args = checkBetween a b := by
  cases h with
  | none => rfl
  | @min a ha | @both a _ _ ha =>
    cases a with
    | object fields => exact absurd rfl (ha fields)
    | _ => rfl
  | named hmin hmax =>
    subst hmin hmax
    rfl

-- ---------------------------------------------------------------------------
-- One bound
-- ---------------------------------------------------------------------------

theorem lengthArg_of_isBound (h : IsBound arg bound) : lengthArg rule arg = .ok bound := by
  cases h with
  | absent | null => rfl
  | length => simp [lengthArg, Number.toUnsigned?]

/-- What is refused is shown. -/
theorem lengthArg_of_not_isBound (h : ∀ bound, ¬ IsBound (some j) bound) :
    lengthArg rule (some j) = .error (.arguments rule (.notLength j)) := by
  cases j with
  | null => exact absurd .null (h none)
  | number n =>
    cases n with
    | float => rfl
    | integer n hrange =>
      -- Every natural number in range is a bound, so only negative ones are left.
      have hn : ¬ 0 ≤ n := by
        intro hn
        obtain ⟨n, rfl⟩ := Int.eq_ofNat_of_zero_le hn
        exact h (some n) (.length hrange)
      simp [lengthArg, Number.toUnsigned?, hn, refuse]
  | _ => rfl

-- ---------------------------------------------------------------------------
-- Both bounds
-- ---------------------------------------------------------------------------

theorem checkBetween_of_inOrder {min max : Option Nat} (ha : IsBound a min) (hb : IsBound b max)
    (h : InOrder min max) : checkBetween a b = .ok (.length min max) := by
  rw [checkBetween, lengthArg_of_isBound ha, lengthArg_of_isBound hb]
  cases min with
  | none => rfl
  | some low =>
    cases max with
    | none => rfl
    | some high => exact if_neg (Nat.not_lt.mpr (h low rfl high rfl))

theorem checkBetween_of_defect (h : BoundsDefect a b e) : checkBetween a b = .error e := by
  cases h with
  | min ha =>
    rw [checkBetween, lengthArg_of_not_isBound ha]
    rfl
  | max ha hb =>
    rw [checkBetween, lengthArg_of_isBound ha, lengthArg_of_not_isBound hb]
    rfl
  | order ha hb h =>
    rw [checkBetween, lengthArg_of_isBound ha, lengthArg_of_isBound hb]
    exact if_pos h

theorem isBound_or_defect (arg : Option Json) :
    (∃ bound, IsBound arg bound) ∨ ∃ j, arg = some j ∧ ∀ bound, ¬ IsBound (some j) bound := by
  by_cases h : ∃ bound, IsBound arg bound
  · exact .inl h
  · rw [not_exists] at h
    cases arg with
    | none => exact absurd .absent (h none)
    | some j => exact .inr ⟨j, rfl, h⟩

/-- Two bounds make a check or have a defect. -/
theorem bounds_cases (a b : Option Json) :
    (∃ min max, IsBound a min ∧ IsBound b max ∧ InOrder min max) ∨ ∃ e, BoundsDefect a b e := by
  obtain ⟨min, ha⟩ | ⟨j, rfl, ha⟩ := isBound_or_defect a
  · obtain ⟨max, hb⟩ | ⟨j, rfl, hb⟩ := isBound_or_defect b
    · by_cases h : InOrder min max
      · exact .inl ⟨min, max, ha, hb, h⟩
      · simp only [InOrder, Option.mem_def, Classical.not_forall, Nat.not_le] at h
        obtain ⟨low, rfl, high, rfl, h⟩ := h
        exact .inr ⟨_, .order ha hb h⟩
    · exact .inr ⟨_, .max ha hb⟩
  · exact .inr ⟨_, .min ha⟩

theorem checkBetween_eq_ok_iff : checkBetween a b = .ok check ↔
    ∃ min max, IsBound a min ∧ IsBound b max ∧ InOrder min max ∧ check = .length min max := by
  constructor
  · intro hcheck
    obtain ⟨min, max, ha, hb, h⟩ | ⟨e, h⟩ := bounds_cases a b
    · rw [checkBetween_of_inOrder ha hb h] at hcheck
      cases hcheck
      exact ⟨min, max, ha, hb, h, rfl⟩
    · cases (checkBetween_of_defect h).symm.trans hcheck
  · rintro ⟨min, max, ha, hb, h, rfl⟩
    exact checkBetween_of_inOrder ha hb h

theorem checkBetween_eq_error_iff : checkBetween a b = .error e ↔ BoundsDefect a b e := by
  refine ⟨fun he => ?_, checkBetween_of_defect⟩
  obtain ⟨min, max, ha, hb, h⟩ | ⟨e', h⟩ := bounds_cases a b
  · cases (checkBetween_of_inOrder ha hb h).symm.trans he
  · cases (checkBetween_of_defect h).symm.trans he
    exact h

-- ---------------------------------------------------------------------------
-- The rule
-- ---------------------------------------------------------------------------

/-- Any arguments give two bounds, and those that give the same ones are the same rule. It resolves
exactly when each bound is one and they are in order, and is refused for the first defect otherwise.
A text is accepted by its number of characters, the bounds included, and every check accepts some
text. -/
theorem length_forms : (∀ args, ∃ a b, GivesBounds args a b) ∧
    ∀ args a b, GivesBounds args a b →
      (∀ args', GivesBounds args' a b → resolve "isLength" args' = resolve "isLength" args) ∧
      (∀ check, resolve "isLength" args = .ok check ↔
        ∃ min max, IsBound a min ∧ IsBound b max ∧ InOrder min max ∧ check = .length min max) ∧
      (∀ e, resolve "isLength" args = .error e ↔ BoundsDefect a b e) ∧
      ∀ min max, resolve "isLength" args = .ok (.length min max) →
        (∀ s, (Check.length min max).accepts s = true ↔
          (∀ low ∈ min, low ≤ s.length) ∧ ∀ high ∈ max, s.length ≤ high) ∧
        (∃ s, (Check.length min max).accepts s = true) ∧
        ∀ s : String, min = some s.length ∨ max = some s.length →
          (Check.length min max).accepts s = true := by
  refine ⟨exists_givesBounds, fun args a b h => ?_⟩
  have hresolve : ∀ {args}, GivesBounds args a b → resolve "isLength" args = checkBetween a b :=
    GivesBounds.lengthCheck
  refine ⟨fun args' h' => (hresolve h').trans (hresolve h).symm, ?_, ?_, ?_⟩
  · intro check
    rw [hresolve h]
    exact checkBetween_eq_ok_iff
  · intro e
    rw [hresolve h]
    exact checkBetween_eq_error_iff
  · intro min max hcheck
    rw [hresolve h] at hcheck
    obtain ⟨_, _, -, -, horder, ⟨⟩⟩ := checkBetween_eq_ok_iff.mp hcheck
    exact ⟨fun _ => Check.length_accepts_iff, horder.exists_accepts, fun _ => horder.accepts⟩

/-- By name the bounds may stand in any order, and a character may take two bytes. -/
theorem length_forms_two_four :
    let two : Json := .number (.integer 2 (by decide))
    let four : Json := .number (.integer 4 (by decide))
    let named : Json := .object [("max", four), ("min", two)]
    GivesBounds [two, four] (some two) (some four) ∧
    GivesBounds [named] (some two) (some four) ∧
    resolve "isLength" [named] = resolve "isLength" [two, four] ∧
    resolve "isLength" [two, four] = .ok (.length (some 2) (some 4)) ∧
    (Check.length (some 2) (some 4)).accepts "hé" = true := by
  intro two four named
  have hplaces : GivesBounds [two, four] (some two) (some four) := .both nofun
  have hnamed : GivesBounds [named] (some two) (some four) := .named rfl rfl
  obtain ⟨hsame, hok, -, hwithin⟩ := length_forms.2 _ _ _ hplaces
  have horder : InOrder (some 2) (some 4) := by simp [InOrder]
  have hcheck : resolve "isLength" [two, four] = .ok (.length (some 2) (some 4)) :=
    (hok _).mpr ⟨some 2, some 4, .length _, .length _, horder, rfl⟩
  exact ⟨hplaces, hnamed, hsame _ hnamed, hcheck, (hwithin _ _ hcheck).2.2 "hé" (.inl rfl)⟩

end Library

end RecordSchema
