import Mathlib.Tactic.Linarith
import Mathlib.Tactic.NormNum
import RecordSchema.Proofs.Number.Rounding
import RecordSchema.Validation

/-!
# Numbers in allow-lists

Membership among plain numbers compares what they denote, but an integer meets a
double through rounding. `isAllowed_numbers`: two numbers are members through each
other when they denote the same number, and else only when one is an integer beyond
53 bits and the other the double that it rounds to.
-/

namespace RecordSchema

theorem Binary64.Finite.beq_iff {x y : Finite} : (x == y) = true ↔ x.units = y.units :=
  beq_iff_eq (α := Int)

namespace Number

/-- The number that is denoted. -/
def value : Number → ℚ
  | .integer n _ => n
  | .float x => x.value

/-- An integer that is no double, and the double that it is rounded to. -/
def RoundsTo : Number → Number → Prop
  | .integer n _, .float x => x.value ≠ n ∧ x.NearestEven n
  | _, _ => False

theorem RoundsTo.inv {a b : Number} (h : a.RoundsTo b) :
    ∃ n hn x, a = .integer n hn ∧ b = .float x ∧ x.value ≠ n ∧ x.NearestEven n := by
  cases a with
  | float _ => exact h.elim
  | integer n hn =>
    cases b with
    | integer _ _ => exact h.elim
    | float x => exact ⟨n, hn, x, rfl, rfl, h⟩

theorem RoundsTo.value_ne {a b : Number} (h : a.RoundsTo b) : a.value ≠ b.value := by
  obtain ⟨n, hn, x, rfl, rfl, hne, -⟩ := h.inv
  exact hne.symm

-- ---------------------------------------------------------------------------
-- Rounding keeps the order
-- ---------------------------------------------------------------------------

theorem le_value_of_nearestEven {x y : Binary64.Finite} (h : x.NearestEven q) (hy : y.value ≤ q) :
    y.value ≤ x.value := by
  have hn := h.nearest y
  rw [abs_of_nonpos (sub_nonpos.mpr hy)] at hn
  linarith [neg_abs_le (x.value - q)]

theorem value_le_of_nearestEven {x y : Binary64.Finite} (h : x.NearestEven q) (hy : q ≤ y.value) :
    x.value ≤ y.value := by
  have hn := h.nearest y
  rw [abs_of_nonneg (sub_nonneg.mpr hy)] at hn
  linarith [le_abs_self (x.value - q)]

/-- No double is nearest to a negative and to a positive integer. -/
theorem not_nearestEven_of_signs {m n : Int} {x : Binary64.Finite} (hm : m < 0) (hn : 0 < n)
    (hxm : x.NearestEven m) (hxn : x.NearestEven n) : False := by
  obtain ⟨zero, hzero⟩ := Binary64.exists_value_eq (n := 0) (by decide)
  obtain ⟨unit, hunit⟩ := Binary64.exists_value_eq (n := 1) (by decide)
  have hle : x.value ≤ zero.value :=
    value_le_of_nearestEven hxm (by rw [hzero]; exact_mod_cast hm.le)
  have hge : unit.value ≤ x.value :=
    le_value_of_nearestEven hxn (by rw [hunit]; exact_mod_cast hn)
  rw [hzero] at hle
  rw [hunit] at hge
  norm_num at hle hge
  linarith

-- ---------------------------------------------------------------------------
-- Comparing two numbers
-- ---------------------------------------------------------------------------

theorem natAbs_le_of_inRange (h : Int64Or n) : n.natAbs ≤ 2 ^ 64 := by
  obtain ⟨hl, hu⟩ := h
  omega

theorem toSigned?_eq_some_iff (hn : Int64Or n) :
    (integer n hn).toSigned? = some k ↔ n < 0x8000000000000000 ∧ n = k := by
  simp [toSigned?]

theorem toUnsigned?_eq_some_iff (hn : Int64Or n) :
    (integer n hn).toUnsigned? = some k ↔ 0 ≤ n ∧ n.toNat = k := by
  simp [toUnsigned?]

/-- Every number has a nearest double: of an integer, what it rounds to. -/
theorem exists_toBinary64_integer (hn : Int64Or n) :
    ∃ x, (integer n hn).toBinary64.finite? = some x ∧ ∀ y : Binary64.Finite,
      y.NearestEven n ↔ y.units = x.units := by
  obtain ⟨x, hx⟩ := Binary64.exists_ofInt_eq (natAbs_le_of_inRange hn)
  refine ⟨x, ?_, Binary64.nearestEven_iff_units hx⟩
  rw [toBinary64, hx]
  rfl

/-- Numbers that no one word holds are compared as doubles. -/
theorem denotesSame_eq_beq {a b : Number} (ha : a.toBinary64.finite? = some x)
    (hb : b.toBinary64.finite? = some y)
    (hsigned : ∀ i j, a.toSigned? = some i → b.toSigned? = some j → False)
    (hunsigned : ∀ i j, a.toUnsigned? = some i → b.toUnsigned? = some j → False) :
    a.denotesSame b = (x == y) := by
  unfold denotesSame
  split
  · rename_i hi hj
    exact (hsigned _ _ hi hj).elim
  · split
    · rename_i hi hj
      exact (hunsigned _ _ hi hj).elim
    · simp only [ha, hb]

/-- Integers of one sign share a word. -/
theorem denotesSame_of_word (hm : Int64Or m) (hn : Int64Or n)
    (h : (m < 0x8000000000000000 ∧ n < 0x8000000000000000) ∨ (0 ≤ m ∧ 0 ≤ n)) :
    (integer m hm).denotesSame (integer n hn) = true ↔ m = n := by
  unfold denotesSame
  split
  · rename_i i j hi hj
    obtain ⟨-, rfl⟩ := (toSigned?_eq_some_iff hm).mp hi
    obtain ⟨-, rfl⟩ := (toSigned?_eq_some_iff hn).mp hj
    exact beq_iff_eq
  · rename_i hsigned
    rcases h with ⟨hm1, hn1⟩ | ⟨hm0, hn0⟩
    · exact (hsigned m n ((toSigned?_eq_some_iff hm).mpr ⟨hm1, rfl⟩)
        ((toSigned?_eq_some_iff hn).mpr ⟨hn1, rfl⟩)).elim
    · rw [(toUnsigned?_eq_some_iff hm).mpr ⟨hm0, rfl⟩, (toUnsigned?_eq_some_iff hn).mpr ⟨hn0, rfl⟩]
      simp only [beq_iff_eq]
      omega

/-- Integers of different signs are compared as doubles, which have different signs. -/
theorem denotesSame_of_signs (hm : Int64Or m) (hn : Int64Or n)
    (hs : ¬ (m < 0x8000000000000000 ∧ n < 0x8000000000000000)) (hu : ¬ (0 ≤ m ∧ 0 ≤ n)) :
    (integer m hm).denotesSame (integer n hn) = false := by
  obtain ⟨x, hx, hxm⟩ := exists_toBinary64_integer hm
  obtain ⟨y, hy, hyn⟩ := exists_toBinary64_integer hn
  have hsigned : ∀ i j, (integer m hm).toSigned? = some i →
      (integer n hn).toSigned? = some j → False := fun _ _ hi hj =>
    hs ⟨((toSigned?_eq_some_iff hm).mp hi).1, ((toSigned?_eq_some_iff hn).mp hj).1⟩
  have hunsigned : ∀ i j, (integer m hm).toUnsigned? = some i →
      (integer n hn).toUnsigned? = some j → False := fun _ _ hi hj =>
    hu ⟨((toUnsigned?_eq_some_iff hm).mp hi).1, ((toUnsigned?_eq_some_iff hn).mp hj).1⟩
  rw [denotesSame_eq_beq hx hy hsigned hunsigned, Bool.eq_false_iff, Ne, Binary64.Finite.beq_iff]
  intro h
  have hxn : x.NearestEven n := (hyn x).mpr h
  rcases Int.lt_or_le m 0 with hm0 | hm0
  · exact not_nearestEven_of_signs hm0 (by omega) ((hxm x).mpr rfl) hxn
  · exact not_nearestEven_of_signs (by omega) (by omega) hxn ((hxm x).mpr rfl)

theorem denotesSame_integers (hm : Int64Or m) (hn : Int64Or n) :
    (integer m hm).denotesSame (integer n hn) = true ↔ m = n := by
  by_cases hs : m < 0x8000000000000000 ∧ n < 0x8000000000000000
  · exact denotesSame_of_word hm hn (.inl hs)
  · by_cases hu : 0 ≤ m ∧ 0 ≤ n
    · exact denotesSame_of_word hm hn (.inr hu)
    · rw [denotesSame_of_signs hm hn hs hu]
      constructor
      · nofun
      · rintro rfl
        omega

theorem denotesSame_floats (x y : Binary64.Finite) :
    (float x).denotesSame (float y) = true ↔ x.value = y.value := by
  rw [denotesSame_eq_beq (a := float x) (b := float y) rfl rfl nofun nofun,
    Binary64.Finite.beq_iff, Binary64.Finite.value_inj]

theorem denotesSame_integer_float (hn : Int64Or n) (x : Binary64.Finite) :
    (integer n hn).denotesSame (float x) = true ↔ x.NearestEven n := by
  obtain ⟨y, hy, hyn⟩ := exists_toBinary64_integer hn
  rw [denotesSame_eq_beq hy (b := float x) rfl (fun _ _ _ => nofun) (fun _ _ _ => nofun),
    Binary64.Finite.beq_iff, hyn, eq_comm]

theorem denotesSame_float_integer (hn : Int64Or n) (x : Binary64.Finite) :
    (float x).denotesSame (integer n hn) = true ↔ x.NearestEven n := by
  obtain ⟨y, hy, hyn⟩ := exists_toBinary64_integer hn
  rw [denotesSame_eq_beq (a := float x) rfl hy nofun nofun, Binary64.Finite.beq_iff, hyn]

-- ---------------------------------------------------------------------------
-- The nearest double of a number
-- ---------------------------------------------------------------------------

theorem value_eq_of_nearestEven_value {x y : Binary64.Finite} (h : x.NearestEven y.value) :
    x.value = y.value := by
  have hn := h.nearest y
  rw [sub_self, abs_zero] at hn
  exact sub_eq_zero.mp (abs_nonpos_iff.mp hn)

theorem nearestEven_congr {x y : Binary64.Finite} (hx : x.NearestEven q) (h : y.value = x.value) :
    y.NearestEven q :=
  hx.congr (Binary64.Finite.value_inj.mp h)

/-- One value is nearest to a number. -/
theorem nearestEven_unique {x y : Binary64.Finite} (a : Number) (hx : x.NearestEven a.value)
    (hy : y.NearestEven a.value) : x.value = y.value := by
  cases a with
  | integer n hn =>
    obtain ⟨z, -, hz⟩ := exists_toBinary64_integer hn
    rw [Binary64.Finite.value_inj, (hz x).mp hx, (hz y).mp hy]
  | float z =>
    rw [value_eq_of_nearestEven_value hx, value_eq_of_nearestEven_value hy]

theorem exists_nearestEven (a : Number) : ∃ x : Binary64.Finite, x.NearestEven a.value := by
  cases a with
  | integer n hn =>
    obtain ⟨x, -, hx⟩ := exists_toBinary64_integer hn
    exact ⟨x, (hx x).mpr rfl⟩
  | float x => exact ⟨x, x.nearestEven_value⟩

theorem nearestEven_iff_value_or_roundsTo (hn : Int64Or n) (x : Binary64.Finite) :
    x.NearestEven n ↔
      (integer n hn).value = (float x).value ∨ (integer n hn).RoundsTo (float x) := by
  constructor
  · intro h
    rcases eq_or_ne x.value n with heq | hne
    · exact .inl heq.symm
    · exact .inr ⟨hne, h⟩
  · rintro (heq | ⟨-, h⟩)
    · have hv : (n : ℚ) = x.value := heq
      rw [hv]
      exact x.nearestEven_value
    · exact h

theorem denotesSame_iff (a b : Number) :
    a.denotesSame b = true ↔ a.value = b.value ∨ a.RoundsTo b ∨ b.RoundsTo a := by
  cases a with
  | integer m hm =>
    cases b with
    | integer n hn => simp [denotesSame_integers, value, RoundsTo]
    | float x =>
      rw [denotesSame_integer_float, nearestEven_iff_value_or_roundsTo hm]
      simp [RoundsTo]
  | float x =>
    cases b with
    | integer n hn =>
      rw [denotesSame_float_integer, nearestEven_iff_value_or_roundsTo hn]
      simp [RoundsTo, eq_comm]
    | float y => simp [denotesSame_floats, value, RoundsTo]

theorem denotesSame_comm (a b : Number) : a.denotesSame b = b.denotesSame a := by
  rw [Bool.eq_iff_iff, denotesSame_iff, denotesSame_iff, eq_comm, or_comm (a := a.RoundsTo b)]

/-- Members through each other have the same nearest double. -/
theorem nearestEven_of_denotesSame {a b : Number} {x : Binary64.Finite}
    (h : a.denotesSame b = true) (hx : x.NearestEven a.value) : x.NearestEven b.value := by
  rcases (denotesSame_iff a b).mp h with heq | hr | hr
  · rwa [← heq]
  · obtain ⟨n, hn, y, rfl, rfl, -, hy⟩ := hr.inv
    exact nearestEven_congr y.nearestEven_value (nearestEven_unique (integer n hn) hx hy)
  · obtain ⟨n, hn, y, rfl, rfl, -, hy⟩ := hr.inv
    exact nearestEven_congr hy (value_eq_of_nearestEven_value hx)

theorem denotesSame_of_nearestEven {a b : Number} {x : Binary64.Finite}
    (hne : ¬ ∃ m hm n hn, a = .integer m hm ∧ b = .integer n hn)
    (ha : x.NearestEven a.value) (hb : x.NearestEven b.value) : a.denotesSame b = true := by
  cases a with
  | integer m hm =>
    cases b with
    | integer n hn => exact (hne ⟨m, hm, n, hn, rfl, rfl⟩).elim
    | float y =>
      rw [denotesSame_integer_float]
      exact nearestEven_congr ha (value_eq_of_nearestEven_value hb).symm
  | float y =>
    cases b with
    | integer n hn =>
      rw [denotesSame_float_integer]
      exact nearestEven_congr hb (value_eq_of_nearestEven_value ha).symm
    | float z =>
      rw [denotesSame_floats, ← value_eq_of_nearestEven_value ha, value_eq_of_nearestEven_value hb]

/-- Membership is transitive, but for two integers that the number between them is
the nearest double of. -/
theorem denotesSame_trans {a b c : Number} (hab : a.denotesSame b = true)
    (hbc : b.denotesSame c = true) :
    a.denotesSame c = true ↔ ¬ ∃ m hm n hn, m ≠ n ∧ a = .integer m hm ∧ c = .integer n hn := by
  constructor
  · rintro hac ⟨m, hm, n, hn, hne, rfl, rfl⟩
    exact hne ((denotesSame_integers hm hn).mp hac)
  · intro h
    by_cases hint : ∃ m hm n hn, a = .integer m hm ∧ c = .integer n hn
    · obtain ⟨m, hm, n, hn, rfl, rfl⟩ := hint
      rw [denotesSame_integers]
      by_contra hne
      exact h ⟨m, hm, n, hn, hne, rfl, rfl⟩
    · obtain ⟨x, hx⟩ := exists_nearestEven a
      exact denotesSame_of_nearestEven hint hx
        (nearestEven_of_denotesSame hbc (nearestEven_of_denotesSame hab hx))

/-- Two integers share a member only through a double that both round to. -/
theorem denotesSame_both_iff {l : Number} (hm : Int64Or m) (hn : Int64Or n) (hne : m ≠ n) :
    (l.denotesSame (integer m hm) = true ∧ l.denotesSame (integer n hn) = true) ↔
      ∃ x : Binary64.Finite, l = .float x ∧ x.NearestEven m ∧ x.NearestEven n := by
  cases l with
  | integer k hk =>
    simp only [denotesSame_integers, reduceCtorEq, false_and, exists_false, iff_false]
    rintro ⟨rfl, rfl⟩
    exact hne rfl
  | float x =>
    simp only [denotesSame_float_integer, float.injEq]
    constructor
    · intro h
      exact ⟨x, rfl, h⟩
    · rintro ⟨_, rfl, h⟩
      exact h

/-- Only integers beyond 53 bits are rounded. -/
theorem RoundsTo.lt_abs {a b : Number} (h : a.RoundsTo b) : 2 ^ 53 < |a.value| := by
  obtain ⟨n, hn, x, rfl, rfl, hne, hx⟩ := h.inv
  by_contra hle
  have hle : |(n : ℚ)| ≤ 2 ^ 53 := not_lt.mp hle
  have hbound : n.natAbs ≤ 2 ^ 53 := by
    rw [← Int.cast_abs, ← Nat.cast_natAbs] at hle
    exact_mod_cast hle
  obtain ⟨y, hy⟩ := Binary64.exists_value_eq hbound
  rw [← hy] at hx hne
  exact hne (value_eq_of_nearestEven_value hx)

end Number

-- ---------------------------------------------------------------------------
-- Allow-lists
-- ---------------------------------------------------------------------------

theorem isAllowed_number (a b : Number) : isAllowed [.number a] (.number b) = a.denotesSame b := by
  simp [isAllowed, sameMember]

/-- The double `2⁵³`. -/
def twoTo53 : Binary64.Finite := ⟨false, 2 ^ 53 * Binary64.one, by decide +kernel⟩

theorem twoTo53_value : twoTo53.value = (9007199254740992 : Int) :=
  Binary64.Finite.value_eq_intCast.mpr (Int.natCast_mul _ _)

/-- `2⁵³ + 1` is rounded to `2⁵³`. -/
theorem roundsTo_twoTo53 :
    (Number.integer 9007199254740993 (by decide)).RoundsTo (.float twoTo53) := by
  refine ⟨?_, (Number.denotesSame_integer_float (by decide) twoTo53).mp (by decide +kernel)⟩
  rw [twoTo53_value]
  norm_num

/-- Membership among numbers is equality of what they denote exactly where neither
rounds to the other. Where an integer is rounded it is still reflexive and symmetric, but
not transitive between different integers. -/
theorem isAllowed_numbers (a b c : Number) :
    (isAllowed [.number a] (.number b) = true ↔
      a.value = b.value ∨ a.RoundsTo b ∨ b.RoundsTo a) ∧
    ((isAllowed [.number a] (.number b) = true ↔ a.value = b.value) ↔
      ¬ (a.RoundsTo b ∨ b.RoundsTo a)) ∧
    (a.RoundsTo b → 2 ^ 53 < |a.value|) ∧
    isAllowed [.number a] (.number a) = true ∧
    isAllowed [.number a] (.number b) = isAllowed [.number b] (.number a) ∧
    (isAllowed [.number a] (.number b) = true → isAllowed [.number b] (.number c) = true →
      (isAllowed [.number a] (.number c) = true ↔
        ¬ ∃ m hm n hn, m ≠ n ∧ a = .integer m hm ∧ c = .integer n hn)) ∧
    (∀ (m n : Int) (hm : Int64Or m) (hn : Int64Or n), m ≠ n →
      (isAllowed [.number b] (.number (.integer m hm)) = true ∧
          isAllowed [.number b] (.number (.integer n hn)) = true ↔
        ∃ x : Binary64.Finite, b = .float x ∧ x.NearestEven m ∧ x.NearestEven n)) := by
  simp only [isAllowed_number]
  refine ⟨Number.denotesSame_iff a b, ?_, Number.RoundsTo.lt_abs, ?_, Number.denotesSame_comm a b,
    Number.denotesSame_trans, fun m n => Number.denotesSame_both_iff⟩
  · rw [Number.denotesSame_iff]
    constructor
    · rintro h (hr | hr)
      · exact hr.value_ne (h.mp (.inr (.inl hr)))
      · exact hr.value_ne (h.mp (.inr (.inr hr))).symm
    · intro h
      exact or_iff_left h
  · exact (Number.denotesSame_iff a a).mpr (.inl rfl)

theorem isAllowed_numbers_at_twoTo53 :
    2 ^ 53 < |(Number.integer 9007199254740993 (by decide)).value| ∧
    isAllowed [.number (.integer 9007199254740993 (by decide))] (.number (.float twoTo53)) = true ∧
    isAllowed [.number (.float twoTo53)] (.number (.integer 9007199254740992 (by decide))) = true ∧
    isAllowed [.number (.integer 9007199254740993 (by decide))]
      (.number (.integer 9007199254740992 (by decide))) = false ∧
    ∃ x : Binary64.Finite, Number.float twoTo53 = .float x ∧
      x.NearestEven (9007199254740993 : Int) ∧ x.NearestEven (9007199254740992 : Int) := by
  obtain ⟨-, -, hbound, -, hsymm, htrans, hboth⟩ := isAllowed_numbers
    (.integer 9007199254740993 (by decide)) (.float twoTo53) (.integer 9007199254740992 (by decide))
  have hupper : isAllowed [.number (.integer 9007199254740993 (by decide))]
      (.number (.float twoTo53)) = true := by decide +kernel
  have hlower : isAllowed [.number (.float twoTo53)]
      (.number (.integer 9007199254740992 (by decide))) = true := by decide +kernel
  refine ⟨hbound roundsTo_twoTo53, hupper, hlower, ?_, ?_⟩
  · rw [Bool.eq_false_iff, Ne, htrans hupper hlower]
    exact not_not_intro ⟨_, _, _, _, by decide, rfl, rfl⟩
  · exact (hboth _ _ (by decide) (by decide) (by decide)).mp ⟨hsymm.symm.trans hupper, hlower⟩

/-- Membership is not equality: an allow-list of `2⁵³ + 1` takes `2⁵³`. -/
theorem isAllowed_numbers_inexact :
    ¬ ∀ a b : Number, isAllowed [.number a] (.number b) = true ↔ a.value = b.value := by
  intro h
  exact roundsTo_twoTo53.value_ne ((h _ _).mp (by decide +kernel))

end RecordSchema
