import Mathlib.Algebra.Order.Field.Basic
import Mathlib.Algebra.Order.Field.Rat
import Mathlib.Data.Int.Cast.Lemmas
import RecordSchema.Binary64

/-!
# The double nearest to an integer

`Finite.NearestEven` says which double an integer is read as, without rounding
anything: no double is nearer, and of two that are equally near it is the one with
the even significand. `nearestEven_iff_units`: `ofInt` finds the double of that value.
-/

namespace RecordSchema

namespace Binary64

-- ---------------------------------------------------------------------------
-- Values
-- ---------------------------------------------------------------------------

theorem one_pos : 0 < one := by
  unfold one
  generalize unitExponent = e
  exact powerOfTwo_pos e

/-- The number that a double denotes. -/
def Finite.value (x : Finite) : ℚ := (x.units : ℚ) / (one : ℚ)

/-- The last binary digit of the significand is zero. -/
def Finite.IsEven (x : Finite) : Prop := 2 * step x.magnitude ∣ x.magnitude

structure Finite.NearestEven (x : Finite) (q : ℚ) : Prop where
  nearest : ∀ y : Finite, |x.value - q| ≤ |y.value - q|
  tie : ∀ y : Finite, y.value ≠ x.value → |y.value - q| = |x.value - q| → x.IsEven

/-- The distance, in units, between a double and an integer. -/
def Finite.distance (x : Finite) (n : Int) : Nat := (x.units - n * one).natAbs

theorem Finite.natAbs_units (x : Finite) : x.units.natAbs = x.magnitude := by
  unfold units
  split <;> omega

theorem Finite.value_inj {x y : Finite} : x.value = y.value ↔ x.units = y.units := by
  have h : (one : ℚ) ≠ 0 := by exact_mod_cast one_pos.ne'
  rw [value, value, div_left_inj' h, Int.cast_inj]

theorem Finite.value_eq_intCast {x : Finite} {n : Int} : x.value = n ↔ x.units = n * one := by
  have h : (one : ℚ) ≠ 0 := by exact_mod_cast one_pos.ne'
  rw [value, div_eq_iff h]
  exact_mod_cast Iff.rfl

theorem Finite.abs_value_sub (x : Finite) (n : Int) :
    |x.value - n| = (x.distance n : ℚ) / (one : ℚ) := by
  have h : (0 : ℚ) < one := by exact_mod_cast one_pos
  have hsub : x.value - n = ((x.units - n * one : Int) : ℚ) / (one : ℚ) := by
    rw [value, eq_div_iff h.ne', sub_mul, div_mul_cancel₀ _ h.ne']
    push_cast
    rfl
  rw [hsub, abs_div, abs_of_pos h, distance, Nat.cast_natAbs, Int.cast_abs]

/-- Nearness to an integer is counted in units. -/
theorem Finite.nearestEven_iff {x : Finite} {n : Int} :
    x.NearestEven n ↔ (∀ y : Finite, x.distance n ≤ y.distance n) ∧
      ∀ y : Finite, y.units ≠ x.units → y.distance n = x.distance n → x.IsEven := by
  have h : (0 : ℚ) < one := by exact_mod_cast one_pos
  have hle : ∀ y : Finite, |x.value - n| ≤ |y.value - n| ↔ x.distance n ≤ y.distance n := by
    intro y
    rw [abs_value_sub, abs_value_sub, div_le_div_iff_of_pos_right h, Nat.cast_le]
  have heq : ∀ y : Finite, |y.value - n| = |x.value - n| ↔ y.distance n = x.distance n := by
    intro y
    rw [abs_value_sub, abs_value_sub, div_left_inj' h.ne', Nat.cast_inj]
  constructor
  · rintro ⟨hn, ht⟩
    exact ⟨fun y => (hle y).mp (hn y),
      fun y hy hd => ht y (mt value_inj.mp hy) ((heq y).mpr hd)⟩
  · rintro ⟨hn, ht⟩
    exact ⟨fun y => (hle y).mpr (hn y),
      fun y hy hd => ht y (mt value_inj.mpr hy) ((heq y).mp hd)⟩

-- ---------------------------------------------------------------------------
-- The grid around a magnitude
-- ---------------------------------------------------------------------------

theorem step_pos (m : Nat) : 0 < step m := powerOfTwo_pos _

theorem step_dvd_two_pow (m : Nat) : step m ∣ 2 ^ m.log2 := by
  rw [step, Nat.pow_eq]
  exact Nat.pow_dvd_pow 2 (Nat.sub_le _ _)

theorem step_dvd_step (h : 2 ^ m.log2 ≤ g) : step m ∣ step g := by
  have hg : g ≠ 0 := by
    have := Nat.two_pow_pos m.log2
    omega
  have hlog : m.log2 ≤ g.log2 := (Nat.le_log2 hg).mpr h
  rw [step, step, Nat.pow_eq, Nat.pow_eq]
  exact Nat.pow_dvd_pow 2 (by omega)

theorem two_pow_log2_le (hm : m ≠ 0) : 2 ^ m.log2 ≤ m / step m * step m := by
  obtain ⟨k, hk⟩ := step_dvd_two_pow m
  have hle : 2 ^ m.log2 ≤ m := Nat.log2_self_le hm
  rw [hk, Nat.mul_comm] at hle ⊢
  exact Nat.mul_le_mul_right _ ((Nat.le_div_iff_mul_le (step_pos m)).mpr hle)

theorem upper_le_two_pow (m : Nat) : m / step m * step m + step m ≤ 2 ^ (m.log2 + 1) := by
  obtain ⟨k, hk⟩ := step_dvd_two_pow m
  have hlt : m < 2 ^ (m.log2 + 1) := Nat.lt_log2_self
  have hdouble : 2 ^ (m.log2 + 1) = 2 * k * step m := by
    rw [Nat.pow_succ, hk, Nat.mul_comm, Nat.mul_comm (step m), Nat.mul_assoc]
  rw [hdouble] at hlt ⊢
  have hq : m / step m < 2 * k := (Nat.div_lt_iff_lt_mul (step_pos m)).mpr hlt
  calc m / step m * step m + step m = (m / step m + 1) * step m := (Nat.succ_mul _ _).symm
    _ ≤ 2 * k * step m := Nat.mul_le_mul_right _ hq

/-- No grid point lies strictly between the neighbours of a magnitude. -/
theorem grid_gap (m : Nat) (hg : step g ∣ g) :
    g ≤ m / step m * step m ∨ m / step m * step m + step m ≤ g := by
  rcases Nat.lt_or_ge g (2 ^ m.log2) with hlt | hge
  · by_cases hm : m = 0
    · subst hm
      have : g = 0 := by simpa using hlt
      exact .inl (by omega)
    · exact .inl (Nat.le_of_lt (Nat.lt_of_lt_of_le hlt (two_pow_log2_le hm)))
  · obtain ⟨k, rfl⟩ := Nat.dvd_trans (step_dvd_step hge) hg
    rw [Nat.mul_comm (step m) k]
    rcases Nat.lt_or_ge (m / step m) k with hk | hk
    · exact .inr (Nat.succ_mul _ _ ▸ Nat.mul_le_mul_right (step m) hk)
    · exact .inl (Nat.mul_le_mul_right (step m) hk)

/-- An odd multiple of the step has an odd significand. -/
theorem not_even_of_odd_mul (hge : 2 ^ m.log2 ≤ k * step m) (hk : k % 2 = 1) :
    ¬ 2 * step (k * step m) ∣ k * step m := by
  intro h
  have h2 : 2 * step m ∣ k * step m := Nat.dvd_trans (Nat.mul_dvd_mul_left 2 (step_dvd_step hge)) h
  have : 2 ∣ k := Nat.dvd_of_mul_dvd_mul_right (step_pos m) h2
  omega

/-- An even multiple of the step has an even significand, also where it is a power of
two and its own step is twice as wide. -/
theorem even_of_even_mul (hlog : 52 ≤ m.log2) (hge : 2 ^ m.log2 ≤ k * step m)
    (hle : k * step m ≤ 2 ^ (m.log2 + 1)) (hk : k % 2 = 0) :
    2 * step (k * step m) ∣ k * step m := by
  rcases Nat.lt_or_eq_of_le hle with hlt | heq
  · have hne : k * step m ≠ 0 := by
      have := Nat.two_pow_pos m.log2
      omega
    have hl : (k * step m).log2 = m.log2 := (Nat.log2_eq_iff hne).mpr ⟨hge, hlt⟩
    have hs : step (k * step m) = step m := by rw [step, hl, ← step]
    rw [hs]
    exact Nat.mul_dvd_mul_right (Nat.dvd_of_mod_eq_zero hk) _
  · rw [heq, step, Nat.log2_two_pow, Nat.pow_eq, ← Nat.pow_succ']
    exact Nat.pow_dvd_pow 2 (by omega)

-- ---------------------------------------------------------------------------
-- The nearest grid point
-- ---------------------------------------------------------------------------

theorem roundHalfEven_cases (num den : Nat) :
    (2 * (num % den) < den ∧ roundHalfEven num den = num / den) ∨
      (den < 2 * (num % den) ∧ roundHalfEven num den = num / den + 1) ∨
      (2 * (num % den) = den ∧ roundHalfEven num den = num / den + num / den % 2) := by
  simp only [roundHalfEven]
  split
  · exact .inl ⟨‹_›, rfl⟩
  · split
    · exact .inr (.inl ⟨‹_›, rfl⟩)
    · exact .inr (.inr ⟨by omega, rfl⟩)

theorem nearest_eq (m : Nat) : nearest m 1 = roundHalfEven m (step m) * step m := by
  simp [nearest]

/-- No grid point is nearer. -/
theorem distance_nearest_le (m : Nat) (hg : step g ∣ g) :
    ((nearest m 1 : Int) - m).natAbs ≤ ((g : Int) - m).natAbs := by
  have hm : m / step m * step m + m % step m = m := Nat.div_add_mod' m (step m)
  have hr : m % step m < step m := Nat.mod_lt m (step_pos m)
  have hgap := grid_gap m hg
  rw [nearest_eq]
  rcases roundHalfEven_cases m (step m) with ⟨h, hn⟩ | ⟨h, hn⟩ | ⟨h, hn⟩
  · rw [hn]
    omega
  · rw [hn, Nat.succ_mul]
    omega
  · rcases Nat.mod_two_eq_zero_or_one (m / step m) with hq | hq
    · rw [hn, hq, Nat.add_zero]
      omega
    · rw [hn, hq, Nat.succ_mul]
      omega

/-- Another grid point is as near only when both neighbours are: then the nearest
one has the even significand, and the other one has not. -/
theorem nearest_tie (m : Nat) (hg : step g ∣ g) (hne : g ≠ nearest m 1)
    (hd : ((g : Int) - m).natAbs = ((nearest m 1 : Int) - m).natAbs) :
    2 * step (nearest m 1) ∣ nearest m 1 ∧ ¬ 2 * step g ∣ g := by
  have hm : m / step m * step m + m % step m = m := Nat.div_add_mod' m (step m)
  have hr : m % step m < step m := Nat.mod_lt m (step_pos m)
  have hgap := grid_gap m hg
  have hupper := upper_le_two_pow m
  have hsucc : (m / step m + 1) * step m = m / step m * step m + step m := Nat.succ_mul _ _
  rw [nearest_eq] at hne hd ⊢
  rcases roundHalfEven_cases m (step m) with ⟨h, hn⟩ | ⟨h, hn⟩ | ⟨h, hn⟩
  · rw [hn] at hne hd
    omega
  · rw [hn, hsucc] at hne hd
    omega
  · -- A step that has a half is at least two, so the magnitude is not near zero.
    have hlog : 52 < m.log2 := by
      by_contra hle
      have hs : step m = 1 := by
        rw [step, Nat.sub_eq_zero_of_le (by omega)]
      omega
    have hlow : 2 ^ m.log2 ≤ m / step m * step m := two_pow_log2_le (by rintro rfl; simp at hlog)
    rcases Nat.mod_two_eq_zero_or_one (m / step m) with hq | hq
    · rw [hn, hq, Nat.add_zero] at hne hd ⊢
      have hup : g = (m / step m + 1) * step m := by omega
      rw [hup]
      exact ⟨even_of_even_mul (by omega) hlow (by omega) hq,
        not_even_of_odd_mul (by omega) (by omega)⟩
    · rw [hn, hq] at hne hd ⊢
      rw [hsucc] at hne hd
      have hlo : g = m / step m * step m := by omega
      rw [hlo]
      exact ⟨even_of_even_mul (by omega) (by omega) (by omega) (by omega),
        not_even_of_odd_mul hlow hq⟩

-- ---------------------------------------------------------------------------
-- Doubles of integers
-- ---------------------------------------------------------------------------

theorem Finite.distance_eq (x : Finite) (n : Int) :
    x.distance n =
      if x.negative = decide (n < 0) then ((x.magnitude : Int) - (n.natAbs * one : Nat)).natAbs
      else x.magnitude + n.natAbs * one := by
  have hn : n * one =
      if n < 0 then -((n.natAbs * one : Nat) : Int) else (n.natAbs * one : Nat) := by
    split
    · have : n = -(n.natAbs : Int) := by omega
      rw [Nat.cast_mul, ← neg_mul, ← this]
    · have : n = (n.natAbs : Int) := by omega
      rw [Nat.cast_mul, ← this]
  rw [distance, hn, units]
  generalize n.natAbs * one = m
  cases x.negative <;> by_cases h : n < 0 <;> simp only [h, if_true, if_false, decide_true,
    decide_false, Bool.false_eq_true, reduceCtorEq] <;> omega

/-- The sign and the magnitude that `ofInt` gives. -/
theorem ofInt_inv (h : ofInt n = .finite x) :
    x.negative = decide (n < 0) ∧ x.magnitude = nearest (n.natAbs * one) 1 := by
  rw [ofInt, ofUnits] at h
  split at h
  · cases h
    exact ⟨rfl, rfl⟩
  · cases h

theorem nearest_le_two_mul (m : Nat) : nearest m 1 ≤ 2 * m := by
  have h := distance_nearest_le m (Nat.dvd_zero (step 0))
  omega

theorem mul_one_lt_two_pow_placeLimit : 2 ^ 65 * one < 2 ^ placeLimit := by
  unfold one placeLimit
  generalize unitExponent = e
  rw [Nat.pow_eq, ← Nat.pow_add]
  exact Nat.pow_lt_pow_right (by decide) (by omega)

/-- Integers of 64 bits are far below infinity. -/
theorem exists_ofInt_eq (hn : n.natAbs ≤ 2 ^ 64) : ∃ x, ofInt n = .finite x := by
  have hlog : (nearest (n.natAbs * one) 1).log2 < placeLimit := by
    by_cases h0 : nearest (n.natAbs * one) 1 = 0
    · rw [h0, Nat.log2_zero]
      exact Nat.add_pos_left (by decide) _
    · rw [Nat.log2_lt h0]
      calc nearest (n.natAbs * one) 1 ≤ 2 * (n.natAbs * one) := nearest_le_two_mul _
        _ = 2 * n.natAbs * one := (Nat.mul_assoc _ _ _).symm
        _ ≤ 2 ^ 65 * one := Nat.mul_le_mul_right _ (by omega)
        _ < 2 ^ placeLimit := mul_one_lt_two_pow_placeLimit
  rw [ofInt, ofUnits, dif_pos hlog]
  exact ⟨_, rfl⟩

theorem Finite.units_eq_zero {x : Finite} (h : x.magnitude = 0) : x.units = 0 := by
  rw [units, h]
  split <;> rfl

theorem Finite.units_eq_of_magnitude {x y : Finite} (hs : x.negative = y.negative)
    (hm : x.magnitude = y.magnitude) : x.units = y.units := by
  rw [units, units, hs, hm]

theorem distance_ofInt_le (hx : ofInt n = .finite x) (y : Finite) :
    x.distance n ≤ y.distance n := by
  obtain ⟨hs, hm⟩ := ofInt_inv hx
  have h := distance_nearest_le (n.natAbs * one) y.onGrid.2
  rw [x.distance_eq, y.distance_eq, if_pos hs, hm]
  generalize n.natAbs * one = m at *
  split <;> omega

/-- A double as near as the one of `ofInt` has its value, or is the other neighbour. -/
theorem units_eq_or_tie (hx : ofInt n = .finite x) {y : Finite}
    (hd : y.distance n = x.distance n) :
    y.units = x.units ∨
      (2 * step x.magnitude ∣ x.magnitude ∧ ¬ 2 * step y.magnitude ∣ y.magnitude) := by
  obtain ⟨hs, hm⟩ := ofInt_inv hx
  have h := distance_nearest_le (n.natAbs * one) y.onGrid.2
  have hz := nearest_le_two_mul (n.natAbs * one)
  have ht := fun hne hd => nearest_tie (n.natAbs * one) y.onGrid.2 hne hd
  rw [x.distance_eq, y.distance_eq, if_pos hs, hm] at hd
  rw [hm]
  generalize n.natAbs * one = m at *
  by_cases hmag : y.magnitude = nearest m 1
  · refine .inl ?_
    split at hd
    · exact Finite.units_eq_of_magnitude (by rw [hs]; assumption) (by rw [hm, hmag])
    · -- With opposite signs the distances only meet at zero.
      have hy : y.magnitude = 0 := by omega
      have hx0 : x.magnitude = 0 := by omega
      rw [Finite.units_eq_zero hy, Finite.units_eq_zero hx0]
  · refine .inr (ht hmag ?_)
    split at hd <;> omega

theorem ofInt_nearestEven (hx : ofInt n = .finite x) : x.NearestEven n := by
  rw [Finite.nearestEven_iff]
  refine ⟨distance_ofInt_le hx, ?_⟩
  intro y hne hd
  exact ((units_eq_or_tie hx hd).resolve_left hne).1

/-- Only the value of a double matters for how near it is. -/
theorem Finite.NearestEven.congr {x y : Finite} (h : x.NearestEven q) (hu : y.units = x.units) :
    y.NearestEven q := by
  have hv : y.value = x.value := value_inj.mpr hu
  have hm : y.magnitude = x.magnitude := by rw [← natAbs_units, ← natAbs_units, hu]
  obtain ⟨hn, ht⟩ := h
  refine ⟨fun z => hv ▸ hn z, fun z hz hd => ?_⟩
  rw [IsEven, hm]
  exact ht z (hv ▸ hz) (hv ▸ hd)

/-- There is one value that an integer rounds to. -/
theorem nearestEven_iff_units (hx : ofInt n = .finite x) (y : Finite) :
    y.NearestEven n ↔ y.units = x.units := by
  refine ⟨?_, (ofInt_nearestEven hx).congr⟩
  intro h
  obtain ⟨hn, ht⟩ := Finite.nearestEven_iff.mp h
  have hd : y.distance n = x.distance n := Nat.le_antisymm (hn x) (distance_ofInt_le hx y)
  rcases units_eq_or_tie hx hd with heq | ⟨-, hodd⟩
  · exact heq
  · by_contra hne
    exact hodd (ht x (Ne.symm hne) hd.symm)

/-- A double is nearest to its own value. -/
theorem Finite.nearestEven_value (x : Finite) : x.NearestEven x.value := by
  refine ⟨fun y => by simp, ?_⟩
  intro y hne hd
  rw [sub_self, abs_zero, abs_eq_zero, sub_eq_zero] at hd
  exact absurd hd hne

/-- Integers of at most 53 bits are doubles. -/
theorem exists_value_eq {n : Int} (hn : n.natAbs ≤ 2 ^ 53) : ∃ x : Finite, x.value = n := by
  obtain ⟨x, hx⟩ := exists_ofInt_eq (Nat.le_trans hn (by decide))
  refine ⟨x, Finite.value_eq_intCast.mpr ?_⟩
  have hgrid : step (n.natAbs * one) ∣ n.natAbs * one := by
    unfold one
    generalize unitExponent = e
    exact step_dvd_mul_step hn
  have h := distance_nearest_le (n.natAbs * one) hgrid
  obtain ⟨hs, hm⟩ := ofInt_inv hx
  have hd : x.distance n = 0 := by
    rw [x.distance_eq, if_pos hs, hm]
    generalize n.natAbs * one = m at *
    omega
  rw [Finite.distance, Int.natAbs_eq_zero, Int.sub_eq_zero] at hd
  exact hd

end Binary64

end RecordSchema
