import Mathlib.Tactic.NormNum
import Mathlib.Tactic.Positivity
import RecordSchema.Proofs.Number.Numeral
import RecordSchema.Proofs.Number.Rounding

/-!
# Decimals that are finite doubles

A decimal is read as a finite double exactly when it lies below `overflow`, halfway from the
greatest double to `2¹⁰²⁴`: `exists_ofText?_finite_iff`. The bound holds for quotients of units
first (`nearest_lt_iff`), then for decimals, whose shortcuts never cross it.
-/

namespace RecordSchema

namespace Binary64

-- ---------------------------------------------------------------------------
-- Quotients
-- ---------------------------------------------------------------------------

/-- Below an even bound is what lies more than a half below it: the half itself goes up. -/
theorem roundHalfEven_lt_iff {num den b : Nat} (hden : 0 < den) (heven : b % 2 = 0) :
    roundHalfEven num den < b ↔ 2 * num + den < 2 * (b * den) := by
  have hnum : num / den * den + num % den = num := Nat.div_add_mod' num den
  have hrem : num % den < den := Nat.mod_lt num hden
  have hcases := roundHalfEven_cases num den
  rcases Nat.lt_trichotomy (num / den + 1) b with hlt | heq | hgt
  · have hle : (num / den + 2) * den ≤ b * den := Nat.mul_le_mul_right den hlt
    rw [Nat.add_mul] at hle
    omega
  · -- The quotient is odd, so a half goes up to the bound.
    have hsucc : b * den = num / den * den + den := by rw [← heq, Nat.succ_mul]
    omega
  · have hle : b * den ≤ num / den * den := Nat.mul_le_mul_right den (Nat.le_of_lt_succ hgt)
    omega

theorem div_mul_step (num den : Nat) :
    num / (den * step (num / den)) = num / den / step (num / den) :=
  (Nat.div_div_eq_div_mul num den _).symm

/-- Rounding does not leave the powers of two around a quotient. -/
theorem nearest_le_two_pow (num den : Nat) : nearest num den ≤ 2 ^ ((num / den).log2 + 1) := by
  have hround := roundHalfEven_le_succ num (den * step (num / den))
  rw [div_mul_step] at hround
  calc nearest num den ≤ (num / den / step (num / den) + 1) * step (num / den) :=
        Nat.mul_le_mul_right _ hround
    _ = num / den / step (num / den) * step (num / den) + step (num / den) := Nat.succ_mul _ _
    _ ≤ _ := upper_le_two_pow _

theorem two_pow_le_nearest {num den : Nat} (h : num / den ≠ 0) :
    2 ^ (num / den).log2 ≤ nearest num den := by
  have hround : num / den / step (num / den) ≤ roundHalfEven num (den * step (num / den)) := by
    have hcases := roundHalfEven_cases num (den * step (num / den))
    rw [div_mul_step] at hcases
    omega
  calc 2 ^ (num / den).log2 ≤ num / den / step (num / den) * step (num / den) := two_pow_log2_le h
    _ ≤ _ := Nat.mul_le_mul_right _ hround

/-- In the last binary place below a power of two, the half under it goes up to it. -/
theorem nearest_lt_of_log2 {num den half : Nat} (hden : 0 < den)
    (hlog : (num / den).log2 = half + 53) :
    nearest num den < 2 ^ (half + 54) ↔ num < (2 ^ 54 - 1) * (2 ^ half * den) := by
  have hstep : step (num / den) = 2 * 2 ^ half := by
    rw [step, hlog, Nat.pow_eq, ← Nat.pow_succ']
    congr 1
  have hpow : 2 ^ (half + 54) = 2 ^ 53 * (2 * 2 ^ half) := by
    rw [← Nat.pow_succ', ← Nat.pow_add]
    congr 1
    omega
  have hpos : 0 < 2 * 2 ^ half := Nat.mul_pos (by decide) (Nat.two_pow_pos half)
  have hwide : den * (2 * 2 ^ half) = 2 * (2 ^ half * den) := by
    rw [Nat.mul_comm, Nat.mul_assoc]
  rw [nearest, hstep, hpow, Nat.mul_lt_mul_right hpos,
    roundHalfEven_lt_iff (Nat.mul_pos hden hpos) (by decide), hwide]
  omega

/-- Rounding stays below a power of two when a half of the last place is left to it. -/
theorem nearest_lt_iff {num den half : Nat} (hden : 0 < den) :
    nearest num den < 2 ^ (half + 54) ↔ num < (2 ^ 54 - 1) * (2 ^ half * den) := by
  have hpos : 0 < 2 ^ half * den := Nat.mul_pos (Nat.two_pow_pos half) hden
  have hplace : ∀ k, 2 ^ (half + k) * den = 2 ^ k * (2 ^ half * den) := fun k => by
    rw [Nat.pow_add, Nat.mul_comm (2 ^ half), Nat.mul_assoc]
  rcases Nat.lt_or_ge (num / den) (2 ^ (half + 53)) with hlt | hge
  · -- A whole binary place lies between.
    have hnum : num < 2 ^ 53 * (2 ^ half * den) := by
      rwa [Nat.div_lt_iff_lt_mul hden, hplace] at hlt
    have hlog : (num / den).log2 < half + 53 := by
      by_cases h0 : num / den = 0
      · rw [h0, Nat.log2_zero]
        omega
      · exact (Nat.log2_lt h0).mpr hlt
    have hnear : nearest num den < 2 ^ (half + 54) :=
      calc nearest num den ≤ 2 ^ ((num / den).log2 + 1) := nearest_le_two_pow num den
        _ < 2 ^ (half + 54) := Nat.pow_lt_pow_right (by decide) (by omega)
    exact iff_of_true hnear (by omega)
  · have hne : num / den ≠ 0 := by
      have := Nat.two_pow_pos (half + 53)
      omega
    rcases Nat.lt_or_ge (num / den) (2 ^ (half + 54)) with hlt | hge'
    · exact nearest_lt_of_log2 hden ((Nat.log2_eq_iff hne).mpr ⟨hge, hlt⟩)
    · have hnum : 2 ^ 54 * (2 ^ half * den) ≤ num := by
        rwa [ge_iff_le, Nat.le_div_iff_mul_le hden, hplace] at hge'
      have hnear : 2 ^ (half + 54) ≤ nearest num den :=
        calc 2 ^ (half + 54) ≤ 2 ^ (num / den).log2 :=
              Nat.pow_le_pow_right (by decide) ((Nat.le_log2 hne).mpr hge')
          _ ≤ nearest num den := two_pow_le_nearest hne
      exact iff_of_false (by omega) (by omega)

-- ---------------------------------------------------------------------------
-- Decimals
-- ---------------------------------------------------------------------------

/-- Halfway from the greatest double to `2¹⁰²⁴`. -/
def overflow : ℚ := 2 ^ 1024 - 2 ^ 970

theorem overflow_eq : overflow = (2 ^ 54 - 1) * 2 ^ 970 := by
  rw [overflow, sub_mul, one_mul, ← pow_add]

theorem overflow_mul_one :
    overflow * one = (((2 ^ 54 - 1) * 2 ^ (970 + unitExponent) : Nat) : ℚ) := by
  rw [overflow_eq]
  unfold one
  generalize unitExponent = e
  rw [Nat.pow_eq, pow_add, Nat.cast_mul, Nat.cast_mul, Nat.cast_pow, Nat.cast_pow, mul_assoc]
  norm_num

theorem exists_ofUnits_finite_iff {negative : Bool} {num den : Nat} (hden : 0 < den) :
    (∃ x, ofUnits negative num den = .finite x) ↔ (num : ℚ) / den < overflow * one := by
  have hfinite : (∃ x, ofUnits negative num den = .finite x) ↔
      (nearest num den).log2 < placeLimit := by
    rw [ofUnits]
    split
    · rename_i h
      exact iff_of_true ⟨_, rfl⟩ h
    · rename_i h
      refine iff_of_false ?_ h
      rintro ⟨x, hx⟩
      cases hx
  have hlog : (nearest num den).log2 < placeLimit ↔ nearest num den < 2 ^ placeLimit := by
    by_cases h0 : nearest num den = 0
    · rw [h0, Nat.log2_zero]
      exact iff_of_true (Nat.add_pos_left (by decide) _) (Nat.two_pow_pos _)
    · exact Nat.log2_lt h0
  have hsplit : placeLimit = 970 + unitExponent + 54 := by
    unfold placeLimit
    omega
  have hpos : (0 : ℚ) < den := by exact_mod_cast hden
  rw [hfinite, hlog, hsplit, nearest_lt_iff hden, overflow_mul_one, div_lt_iff₀ hpos,
    ← Nat.cast_mul, Nat.cast_lt, Nat.mul_assoc]

theorem digitCount_pos {c : Nat} (hc : c ≠ 0) : 0 < digitCount c := by
  rw [digitCount, if_neg hc]
  exact Nat.length_toDigits_pos

theorem digitCount_le_iff {c n : Nat} (hc : c ≠ 0) (hn : 0 < n) :
    digitCount c ≤ n ↔ c < 10 ^ n := by
  rw [digitCount, if_neg hc, Nat.length_toDigits_le_iff (by decide) hn]

/-- A positive number lies between the powers of ten that its digits count. -/
theorem lt_pow_digitCount {c : Nat} (hc : c ≠ 0) : c < 10 ^ digitCount c :=
  (digitCount_le_iff hc (digitCount_pos hc)).mp (Nat.le_refl _)

theorem pow_le_of_lt_digitCount {c n : Nat} (hc : c ≠ 0) (h : n < digitCount c) : 10 ^ n ≤ c := by
  rcases Nat.eq_zero_or_pos n with rfl | hn
  · exact Nat.one_le_iff_ne_zero.mpr hc
  · rw [← Nat.not_lt, ← digitCount_le_iff hc hn]
    omega

theorem overflow_le_pow : overflow ≤ 10 ^ 310 := by
  calc overflow ≤ 2 ^ 1024 := sub_le_self _ (by positivity)
    _ ≤ (2 ^ 205) ^ 5 := by
      rw [← pow_mul]
      exact pow_le_pow_right₀ one_le_two (by decide)
    _ ≤ (10 ^ 62) ^ 5 := pow_le_pow_left₀ (by positivity) (by norm_num) 5
    _ = 10 ^ 310 := (pow_mul _ _ _).symm

theorem one_le_overflow : 1 ≤ overflow := by
  rw [overflow_eq]
  exact one_le_mul_of_one_le_of_one_le (by norm_num) (one_le_pow₀ one_le_two)

theorem overflow_pos : 0 < overflow := zero_lt_one.trans_le one_le_overflow

/-- The shortcut to infinity is taken beyond the bound only. -/
theorem overflow_le_of_order {c : Nat} {scale : Int} (hc : c ≠ 0)
    (h : 310 < digitCount c + scale) : overflow ≤ (c : ℚ) * (10 : ℚ) ^ scale := by
  obtain ⟨n, hn⟩ : ∃ n, digitCount c = n + 1 :=
    Nat.exists_eq_succ_of_ne_zero (digitCount_pos hc).ne'
  have hle : ((10 ^ n : Nat) : ℚ) ≤ c := Nat.cast_le.mpr (pow_le_of_lt_digitCount hc (by omega))
  rw [Nat.cast_pow, Nat.cast_ofNat, ← zpow_natCast] at hle
  calc overflow ≤ 10 ^ 310 := overflow_le_pow
    _ = (10 : ℚ) ^ (310 : Int) := (zpow_ofNat 10 310).symm
    _ ≤ (10 : ℚ) ^ (n + scale) := zpow_le_zpow_right₀ (by norm_num) (by omega)
    _ = (10 : ℚ) ^ (n : Int) * (10 : ℚ) ^ scale := zpow_add₀ (by norm_num) _ _
    _ ≤ (c : ℚ) * (10 : ℚ) ^ scale := mul_le_mul_of_nonneg_right hle (zpow_pos (by norm_num) scale).le

/-- The shortcut to zero is taken far below the bound only. -/
theorem lt_overflow_of_order {c : Nat} {scale : Int} (hc : c ≠ 0)
    (h : digitCount c + scale < -330) : (c : ℚ) * (10 : ℚ) ^ scale < overflow := by
  have hlt : (c : ℚ) < ((10 ^ digitCount c : Nat) : ℚ) := Nat.cast_lt.mpr (lt_pow_digitCount hc)
  rw [Nat.cast_pow, Nat.cast_ofNat, ← zpow_natCast] at hlt
  calc (c : ℚ) * (10 : ℚ) ^ scale
    _ < (10 : ℚ) ^ (digitCount c : Int) * (10 : ℚ) ^ scale :=
      mul_lt_mul_of_pos_right hlt (zpow_pos (by norm_num) scale)
    _ = (10 : ℚ) ^ (digitCount c + scale) := (zpow_add₀ (by norm_num) _ _).symm
    _ ≤ (10 : ℚ) ^ (0 : Int) := zpow_le_zpow_right₀ (by norm_num) (by omega)
    _ = 1 := zpow_zero 10
    _ ≤ overflow := one_le_overflow

/-- A decimal is a finite double exactly below `overflow`. -/
theorem exists_ofDecimal_finite_iff {negative : Bool} {c : Nat} {scale : Int} :
    (∃ x, ofDecimal negative c scale = .finite x) ↔ (c : ℚ) * (10 : ℚ) ^ scale < overflow := by
  have hone : (0 : ℚ) < one := by exact_mod_cast one_pos
  unfold ofDecimal
  dsimp only
  split
  · rename_i hc
    refine iff_of_true ⟨_, rfl⟩ ?_
    rw [hc, Nat.cast_zero, zero_mul]
    exact overflow_pos
  · rename_i hc
    split
    · rename_i h
      exact iff_of_false nofun (not_lt.mpr (overflow_le_of_order hc h))
    · split
      · rename_i h
        exact iff_of_true ⟨_, rfl⟩ (lt_overflow_of_order hc h)
      · split
        · rename_i hscale
          obtain ⟨n, rfl⟩ := Int.eq_ofNat_of_zero_le hscale
          rw [exists_ofUnits_finite_iff Nat.one_pos, Int.toNat_natCast, zpow_natCast, Nat.pow_eq,
            Nat.cast_one, div_one, Nat.cast_mul, Nat.cast_mul, Nat.cast_pow, Nat.cast_ofNat,
            mul_lt_mul_iff_left₀ hone]
        · rename_i hscale
          obtain ⟨n, rfl⟩ := Int.exists_eq_neg_ofNat (by omega : scale ≤ 0)
          rw [neg_neg, Int.toNat_natCast, Nat.pow_eq,
            exists_ofUnits_finite_iff (Nat.pow_pos (by decide)), zpow_neg, zpow_natCast,
            Nat.cast_mul, Nat.cast_pow, Nat.cast_ofNat, mul_div_right_comm,
            mul_lt_mul_iff_left₀ hone, div_eq_mul_inv]

-- ---------------------------------------------------------------------------
-- Texts
-- ---------------------------------------------------------------------------

theorem abs_signed {a : ℚ} (negative : Bool) (ha : 0 ≤ a) : |Decimal.signed negative a| = a := by
  cases negative with
  | false => exact abs_of_nonneg ha
  | true => exact (abs_neg a).trans (abs_of_nonneg ha)

/-- Texts of finite doubles are the decimals below `overflow`. -/
theorem exists_ofText?_finite_iff {text : String} :
    (∃ x, ofText? text = some (.finite x)) ↔
      ∃ q, Decimal.IsDecimal text.toList q ∧ |q| < overflow := by
  have hnonneg : ∀ (c : Nat) (scale : Int), 0 ≤ (c : ℚ) * (10 : ℚ) ^ scale := fun c scale =>
    mul_nonneg c.cast_nonneg (zpow_pos (by norm_num) scale).le
  constructor
  · rintro ⟨x, hx⟩
    obtain ⟨sign, negative, m, e, c, places, k, hsign, hm, he, htext, hx⟩ :=
      ofText?_eq_finite_iff.mp hx
    rw [htext]
    refine ⟨_, .mk hsign hm he, ?_⟩
    rw [abs_signed negative (hnonneg c _)]
    exact exists_ofDecimal_finite_iff.mp ⟨x, hx⟩
  · rintro ⟨q, hq, hlt⟩
    generalize htext : text.toList = cs at hq
    obtain @⟨sign, negative, m, c, places, e, k, hsign, hm, he⟩ := hq
    rw [abs_signed negative (hnonneg c _)] at hlt
    obtain ⟨x, hx⟩ : ∃ x, ofDecimal negative c (k - places) = .finite x :=
      exists_ofDecimal_finite_iff.mpr hlt
    exact ⟨x, ofText?_eq_finite_iff.mpr
      ⟨sign, negative, m, e, c, places, k, hsign, hm, he, htext, hx⟩⟩

/-- A decimal below `overflow`, white space around it aside. -/
inductive IsFiniteText (text : String) : Prop
  | mk (htext : text.toList = before ++ (body ++ after))
      (hbefore : ∀ c ∈ before, Text.isBlank c = true)
      (hafter : ∀ c ∈ after, Text.isBlank c = true)
      (hbody : Decimal.IsDecimal body q) (hq : |q| < overflow)

theorem finite?_eq_some_iff {b : Binary64} : b.finite? = some x ↔ b = .finite x := by
  cases b <;> simp [finite?]

theorem isSome_finite?_trim_iff {text : String} :
    ((ofText? (Text.trim text)).bind finite?).isSome = true ↔ IsFiniteText text := by
  have hread : ((ofText? (Text.trim text)).bind finite?).isSome = true ↔
      ∃ q, Decimal.IsDecimal (Text.trimChars text.toList) q ∧ |q| < overflow := by
    rw [Option.isSome_iff_exists, ← String.toList_ofList (l := Text.trimChars text.toList),
      ← Text.trim, ← exists_ofText?_finite_iff]
    simp only [Option.bind_eq_some_iff, finite?_eq_some_iff, exists_eq_right]
  rw [hread]
  constructor
  · rintro ⟨q, hbody, hq⟩
    obtain ⟨before, after, htext, hbefore, hafter⟩ := Text.exists_trimChars text.toList
    exact .mk htext hbefore hafter hbody hq
  · rintro ⟨htext, hbefore, hafter, hbody, hq⟩
    rw [htext, Text.trimChars_append hbefore hbody.not_blank hafter]
    exact ⟨_, hbody, hq⟩

end Binary64

end RecordSchema
