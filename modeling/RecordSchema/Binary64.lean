/-!
# Exact binary64 numbers

A finite double is a whole number of units of `2⁻¹⁰⁷⁴` with a sign, and the
grid of the format says which counts occur. Every finite double is therefore
an integer, `units`, and comparison and rounding are integer arithmetic.
Zero keeps its sign; `units` forgets it.
-/

namespace RecordSchema

namespace Binary64

/-- The last place of a double is worth `2⁻¹⁰⁷⁴`. -/
def unitExponent : Nat := 1074

/-- The number one, in units. -/
def one : Nat := Nat.pow 2 unitExponent

/-- Places of two above a unit, up to the first that is too large: `2¹⁰²⁴`. -/
def placeLimit : Nat := 1024 + unitExponent

theorem powerOfTwo_pos (n : Nat) : 0 < Nat.pow 2 n := by
  rw [Nat.pow_eq]
  exact Nat.two_pow_pos n

/-- The distance, in units, between a magnitude and its upper neighbour. -/
def step (magnitude : Nat) : Nat := Nat.pow 2 (magnitude.log2 - 52)

/-- Counts of units that are doubles: at most 53 significant bits, below `2¹⁰²⁴`. -/
def OnGrid (magnitude : Nat) : Prop :=
  magnitude.log2 < placeLimit ∧ step magnitude ∣ magnitude

instance (magnitude : Nat) : Decidable (OnGrid magnitude) := by
  unfold OnGrid
  infer_instance

structure Finite where
  negative : Bool
  magnitude : Nat
  onGrid : OnGrid magnitude
  deriving DecidableEq

/-- The exact value, counted in units of `2⁻¹⁰⁷⁴`. -/
def Finite.units (x : Finite) : Int := if x.negative then -(x.magnitude : Int) else x.magnitude

/-- Both zeros are one value. -/
instance : BEq Finite := ⟨fun x y => x.units == y.units⟩

def Finite.zero (negative : Bool) : Finite :=
  ⟨negative, 0, by decide, Nat.dvd_zero _⟩

instance : Inhabited Finite := ⟨.zero false⟩

/-- The value is a whole number. -/
def Finite.isWhole (x : Finite) : Bool := x.magnitude % one == 0

/-- The nearest whole number to `num / den`, a half going to the even one. -/
def roundHalfEven (num den : Nat) : Nat :=
  let quotient := num / den
  let twice := 2 * (num % den)
  if twice < den then quotient
  else if den < twice then quotient + 1
  else quotient + quotient % 2

theorem roundHalfEven_le_succ (num den : Nat) : roundHalfEven num den ≤ num / den + 1 := by
  simp only [roundHalfEven]
  split
  · omega
  · split <;> omega

/-- The grid point nearest to `num / den` units. -/
def nearest (num den : Nat) : Nat :=
  let spacing := step (num / den)
  roundHalfEven num (den * spacing) * spacing

theorem step_dvd_mul_step {k s : Nat} (h : k ≤ Nat.pow 2 53) : step (k * Nat.pow 2 s) ∣ k * Nat.pow 2 s := by
  simp only [Nat.pow_eq] at *
  rcases Nat.eq_zero_or_pos k with hk | hk
  · simp [hk, step]
  · rcases Nat.lt_or_ge k (2 ^ 53) with hlt | hge
    · have hlog : (k * 2 ^ s).log2 ≤ 52 + s := by
        have hpos : k * 2 ^ s ≠ 0 := Nat.ne_of_gt (Nat.mul_pos hk (Nat.two_pow_pos s))
        have : (k * 2 ^ s).log2 < 53 + s := by
          rw [Nat.log2_lt hpos, Nat.pow_add]
          exact Nat.mul_lt_mul_of_pos_right hlt (Nat.two_pow_pos s)
        omega
      exact Nat.dvd_trans (Nat.pow_dvd_pow 2 (by omega)) (Nat.dvd_mul_left _ _)
    · have hk : k = 2 ^ 53 := Nat.le_antisymm h hge
      subst hk
      rw [← Nat.pow_add]
      unfold step
      rw [Nat.log2_two_pow]
      exact Nat.pow_dvd_pow 2 (by omega)

theorem step_nearest_dvd (num den : Nat) : step (nearest num den) ∣ nearest num den := by
  unfold nearest
  apply step_dvd_mul_step
  have hle := roundHalfEven_le_succ num (den * step (num / den))
  have hlt : num / (den * step (num / den)) < 2 ^ 53 := by
    rw [← Nat.div_div_eq_div_mul]
    have hpos : 0 < step (num / den) := powerOfTwo_pos _
    rw [Nat.div_lt_iff_lt_mul hpos, step, Nat.pow_eq, ← Nat.pow_add]
    rcases Nat.eq_zero_or_pos (num / den) with h | h
    · rw [h]; exact Nat.two_pow_pos _
    · refine Nat.lt_of_lt_of_le Nat.lt_log2_self (Nat.pow_le_pow_right (by decide) (by omega))
  rw [Nat.pow_eq]
  omega

end Binary64

/-- A double: finite, infinite or not a number. -/
inductive Binary64 where
  | finite (x : Binary64.Finite)
  | infinite (negative : Bool)
  | nan
  deriving DecidableEq

namespace Binary64

/-- Both zeros are one value, and what is not a number equals nothing, itself included. -/
protected def beq : Binary64 → Binary64 → Bool
  | .finite x, .finite y => x == y
  | .infinite m, .infinite n => m == n
  | _, _ => false

instance : BEq Binary64 := ⟨Binary64.beq⟩

def finite? : Binary64 → Option Finite
  | .finite x => some x
  | _ => none

/-- The double nearest to `num / den` units, ties to even; beyond the format, infinity. -/
def ofUnits (negative : Bool) (num den : Nat) : Binary64 :=
  if h : (nearest num den).log2 < placeLimit then
    .finite ⟨negative, nearest num den, h, step_nearest_dvd num den⟩
  else .infinite negative

def ofInt (n : Int) : Binary64 :=
  ofUnits (n < 0) (n.natAbs * one) 1

/-- The double nearest to `10 ^ n`, in units. -/
def powerOfTen (n : Nat) : Nat := nearest (Nat.pow 10 n * one) 1

/-- The greatest power of ten that is below infinity. -/
def maxPower : Nat := 308

/-- The double of a significand with a power of ten, in floating-point steps: both
are rounded, then multiplied or divided, so the last place may be off by one. A
power below `10⁻³⁰⁸` takes two divisions, and after two nothing is left to divide. -/
def ofScaled (negative : Bool) (significand : Nat) (scale : Int) : Binary64 :=
  let start := nearest (significand * one) 1
  if start = 0 then .finite (.zero negative)
  else if maxPower < scale then .infinite negative
  else if 0 ≤ scale then ofUnits negative (start * powerOfTen scale.toNat) (one)
  else
    let power := (-scale).toNat
    if power ≤ maxPower then ofUnits negative (start * one) (powerOfTen power)
    else if power ≤ 2 * maxPower then
      let first := nearest (start * one) (powerOfTen maxPower)
      ofUnits negative (first * one) (powerOfTen (power - maxPower))
    else .finite (.zero negative)

/-- Number of decimal digits; none for zero. -/
def digitCount (n : Nat) : Nat := if n = 0 then 0 else (Nat.toDigits 10 n).length

/-- The double nearest to `coefficient · 10 ^ scale`. Powers that only repeat
the answer "infinite" or "zero" are not computed. -/
def ofDecimal (negative : Bool) (coefficient : Nat) (scale : Int) : Binary64 :=
  if coefficient = 0 then .finite (.zero negative)
  else
    let order : Int := digitCount coefficient + scale
    if 310 < order then .infinite negative
    else if order < -330 then .finite (.zero negative)
    else if 0 ≤ scale then ofUnits negative (coefficient * Nat.pow 10 scale.toNat * one) 1
    else ofUnits negative (coefficient * one) (Nat.pow 10 (-scale).toNat)

end Binary64

end RecordSchema
