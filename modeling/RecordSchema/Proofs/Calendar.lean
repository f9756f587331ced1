import Mathlib.Algebra.GroupWithZero.Nat
import RecordSchema.Calendar

/-!
# Dates that exist

Every day is given a date that exists (`Date.ofEpochDay_isValid`), in the year its position in the
400-year cycles says (`Date.year_ofEpochDay_iff`). Days in a row are given dates in a row
(`Date.ofEpochDay_succ`), so with the date of one day the calendar gives all of them.
-/

namespace RecordSchema

namespace Calendar

-- ---------------------------------------------------------------------------
-- Stretches
-- ---------------------------------------------------------------------------

/-- A position within the whole lies within one of the stretches. -/
theorem locate_spec (h : n < lengths.sum) :
    ∃ length, lengths[(locate lengths n).1]? = some length ∧ (locate lengths n).2 < length := by
  fun_induction locate lengths n with
  | case1 n => simp at h
  | case2 length rest n hn => exact ⟨length, rfl, hn⟩
  | case3 length rest n hn index offset hlocate ih =>
    rw [List.sum_cons] at h
    have ih := ih (by omega)
    rwa [hlocate] at ih

/-- The years of a cycle. -/
def yearLengths : List Nat := (List.range 400).map fun y => yearLength (y : Nat)

theorem sum_yearLengths : yearLengths.sum = cycleLength := by
  decide +kernel

theorem getElem?_yearLengths {y : Nat} (h : y < 400) : yearLengths[y]? = some (yearLength y) := by
  simp [yearLengths, h]

theorem sum_monthLengths (year : Int) : (monthLengths year).sum = yearLength year := by
  unfold monthLengths yearLength
  cases isLeap year <;> rfl

theorem isLeap_add_cycles (cycle year : Int) : isLeap (400 * cycle + year) = isLeap year := by
  have h4 : (400 * cycle + year) % 4 = year % 4 := by omega
  have h100 : (400 * cycle + year) % 100 = year % 100 := by omega
  have h400 : (400 * cycle + year) % 400 = year % 400 := by omega
  rw [isLeap, isLeap, h4, h100, h400]

theorem yearLength_add_cycles (cycle year : Int) :
    yearLength (400 * cycle + year) = yearLength year := by
  rw [yearLength, yearLength, isLeap_add_cycles]

-- ---------------------------------------------------------------------------
-- Dates
-- ---------------------------------------------------------------------------

/-- The days of a year, month by month. -/
theorem exists_month (year : Int) (h : n < yearLength year) :
    ∃ length, (monthLengths year)[(locate (monthLengths year) n).1]? = some length ∧
      (locate (monthLengths year) n).2 < length :=
  locate_spec (by rwa [sum_monthLengths])

theorem exists_year (h : n < cycleLength) : ∃ y dayOfYear : Nat,
    locate yearLengths n = (y, dayOfYear) ∧ y < 400 ∧ dayOfYear < yearLength y := by
  rw [← sum_yearLengths] at h
  obtain ⟨length, hlength, hday⟩ := locate_spec h
  obtain ⟨hlt, -⟩ := List.getElem?_eq_some_iff.mp hlength
  have hlt : (locate yearLengths n).1 < 400 := by simpa [yearLengths] using hlt
  rw [getElem?_yearLengths hlt, Option.some_inj] at hlength
  exact ⟨_, _, rfl, hlt, hlength ▸ hday⟩

/-- A day lies in its year of its cycle, and in its month of that year. -/
theorem ofEpochDay_cases (days : Int) : ∃ (y month day length : Nat), y < 400 ∧
    let year := 400 * ((days + epochDay) / cycleLength) + y
    Date.ofEpochDay days = ⟨year, month + 1, day + 1⟩ ∧
    (monthLengths year)[month]? = some length ∧ day < length := by
  have hday : ((days + epochDay) % cycleLength).toNat < cycleLength := by
    unfold cycleLength
    omega
  obtain ⟨y, dayOfYear, hplace, hy, hlt⟩ := exists_year hday
  rw [← yearLength_add_cycles ((days + epochDay) / cycleLength)] at hlt
  obtain ⟨length, hlength, hmonth⟩ := exists_month _ hlt
  refine ⟨y, _, _, length, hy, ?_, hlength, hmonth⟩
  unfold yearLengths at hplace
  simp only [Date.ofEpochDay, hplace]

theorem Date.isValid_iff {d : Date} : d.isValid = true ↔
    ∃ length, (monthLengths d.year)[d.month - 1]? = some length ∧ 1 ≤ d.month ∧ 1 ≤ d.day ∧
      d.day ≤ length := by
  unfold isValid
  split
  · rename_i length hlength
    simp [hlength, and_assoc]
  · rename_i hnone
    simp [hnone]

theorem Date.ofEpochDay_isValid (days : Int) : (ofEpochDay days).isValid = true := by
  obtain ⟨y, month, day, length, -, hdate, hlength, hlt⟩ := ofEpochDay_cases days
  rw [hdate, isValid_iff]
  exact ⟨length, hlength, Nat.le_add_left 1 month, Nat.le_add_left 1 day, hlt⟩

/-- Two digits are enough for a month and for a day. -/
theorem Date.month_day_le {d : Date} (h : d.isValid = true) : d.month ≤ 12 ∧ d.day ≤ 31 := by
  obtain ⟨length, hlength, hmonth, -, hday⟩ := isValid_iff.mp h
  obtain ⟨hlt, -⟩ := List.getElem?_eq_some_iff.mp hlength
  have hle : ∀ l ∈ monthLengths d.year, l ≤ 31 := by
    unfold monthLengths
    cases isLeap d.year <;> decide
  have hlt : d.month - 1 < 12 := hlt
  exact ⟨by omega, Nat.le_trans hday (hle length (List.mem_of_getElem? hlength))⟩

/-- The years 0 to 9999 are 25 whole cycles. -/
theorem Date.year_ofEpochDay_iff {days : Int} :
    (0 ≤ (ofEpochDay days).year ∧ (ofEpochDay days).year ≤ 9999) ↔
      -epochDay ≤ days ∧ days < 25 * cycleLength - epochDay := by
  obtain ⟨y, month, day, length, hy, hdate, -, -⟩ := ofEpochDay_cases days
  rw [hdate]
  dsimp only [cycleLength]
  omega

-- ---------------------------------------------------------------------------
-- Successive days
-- ---------------------------------------------------------------------------

section

variable {lengths : List Nat} {n : Nat} (hpos : ∀ l ∈ lengths, 0 < l)
include hpos

theorem locate_zero (h : lengths ≠ []) : locate lengths 0 = (0, 0) := by
  obtain ⟨length, rest, rfl⟩ := List.exists_cons_of_ne_nil h
  exact if_pos (hpos length List.mem_cons_self)

/-- The next position is in the same stretch, or it starts the next one. -/
theorem locate_succ (h : n + 1 < lengths.sum) : locate lengths (n + 1) =
    if lengths[(locate lengths n).1]? = some ((locate lengths n).2 + 1) then
      ((locate lengths n).1 + 1, 0)
    else ((locate lengths n).1, (locate lengths n).2 + 1) := by
  fun_induction locate lengths n with
  | case1 n => simp at h
  | case2 length rest n hn =>
    obtain ⟨-, hrest⟩ := List.forall_mem_cons.mp hpos
    rw [locate]
    by_cases hnext : n + 1 < length
    · have hne : length ≠ n + 1 := by omega
      simp [hnext, hne]
    · have heq : length = n + 1 := by omega
      subst heq
      cases rest with
      | nil => simp at h
      | cons next rest =>
        have hnext : 0 < next := hrest next List.mem_cons_self
        simp [locate, hnext]
  | case3 length rest n hn index offset hlocate ih =>
    obtain ⟨-, hrest⟩ := List.forall_mem_cons.mp hpos
    rw [List.sum_cons] at h
    have hsub : n + 1 - length = n - length + 1 := by omega
    have ih := ih hrest (by omega)
    rw [hlocate] at ih
    rw [locate, if_neg (by omega), hsub, ih]
    dsimp only
    rw [List.getElem?_cons_succ]
    split <;> rfl

/-- The last position is the end of the last stretch. -/
theorem locate_last (h : n + 1 = lengths.sum) :
    (locate lengths n).1 + 1 = lengths.length ∧
      lengths[(locate lengths n).1]? = some ((locate lengths n).2 + 1) := by
  fun_induction locate lengths n with
  | case1 n => simp at h
  | case2 length rest n hn =>
    obtain ⟨-, hrest⟩ := List.forall_mem_cons.mp hpos
    rw [List.sum_cons] at h
    cases rest with
    | nil => simpa using h.symm
    | cons next rest =>
      have hnext : 0 < next := hrest next List.mem_cons_self
      rw [List.sum_cons] at h
      omega
  | case3 length rest n hn index offset hlocate ih =>
    obtain ⟨-, hrest⟩ := List.forall_mem_cons.mp hpos
    rw [List.sum_cons] at h
    have ih := ih hrest (by omega)
    rw [hlocate] at ih
    simpa using ih

end

theorem monthLengths_pos (year : Int) : ∀ l ∈ monthLengths year, 0 < l := by
  unfold monthLengths
  cases isLeap year <;> decide

theorem yearLength_pos (year : Int) : 0 < yearLength year := by
  unfold yearLength
  split <;> decide

/-- The day after: a day of the same month, or the first day of the next month or year. -/
def Date.next (d : Date) : Date :=
  if (monthLengths d.year)[d.month - 1]? ≠ some d.day then { d with day := d.day + 1 }
  else if d.month < 12 then ⟨d.year, d.month + 1, 1⟩
  else ⟨d.year + 1, 1, 1⟩

/-- The date a number of days after the first day of a year. -/
def Date.ofDayOfYear (year : Int) (n : Nat) : Date :=
  ⟨year, (locate (monthLengths year) n).1 + 1, (locate (monthLengths year) n).2 + 1⟩

theorem Date.ofEpochDay_eq {days : Int} (cycle : Int) {dayOfCycle : Nat}
    (hday : dayOfCycle < cycleLength)
    (hplace : locate yearLengths dayOfCycle = (y, dayOfYear))
    (hdays : days + epochDay = cycleLength * cycle + dayOfCycle) :
    ofEpochDay days = ofDayOfYear (400 * cycle + y) dayOfYear := by
  have hcycle : (days + epochDay) / cycleLength = cycle := by
    unfold cycleLength at *
    omega
  have hrest : ((days + epochDay) % cycleLength).toNat = dayOfCycle := by
    unfold cycleLength at *
    omega
  unfold yearLengths at hplace
  simp only [ofEpochDay, hcycle, hrest, hplace, ofDayOfYear]

theorem Date.ofDayOfYear_succ {year : Int} (h : n + 1 < yearLength year) :
    ofDayOfYear year (n + 1) = (ofDayOfYear year n).next := by
  obtain ⟨length, hlength, -⟩ := exists_month year h
  rw [← sum_monthLengths] at h
  have hsucc := locate_succ (monthLengths_pos year) h
  rw [hsucc] at hlength
  unfold ofDayOfYear next
  rw [hsucc]
  dsimp only
  rw [Nat.add_sub_cancel]
  split at hlength
  case isTrue hend =>
    obtain ⟨hlt, -⟩ := List.getElem?_eq_some_iff.mp hlength
    have hmonth : (locate (monthLengths year) n).1 + 1 < 12 := hlt
    simp [hend, hmonth]
  case isFalse hend => simp [hend]

theorem Date.ofDayOfYear_last {year : Int} (h : n + 1 = yearLength year) :
    ofDayOfYear (year + 1) 0 = (ofDayOfYear year n).next := by
  rw [← sum_monthLengths] at h
  obtain ⟨hmonth, hend⟩ := locate_last (monthLengths_pos year) h
  have hmonth : (locate (monthLengths year) n).1 + 1 = 12 := hmonth
  have hfirst : locate (monthLengths (year + 1)) 0 = (0, 0) :=
    locate_zero (monthLengths_pos (year + 1)) (List.cons_ne_nil _ _)
  unfold ofDayOfYear next
  dsimp only
  rw [hfirst, Nat.add_sub_cancel, if_neg (not_not_intro hend), if_neg (by omega)]

/-- Every day is followed by the next of the calendar. -/
theorem Date.ofEpochDay_succ (days : Int) : ofEpochDay (days + 1) = (ofEpochDay days).next := by
  have hpos : ∀ l ∈ yearLengths, 0 < l := List.forall_mem_map.mpr fun y _ => yearLength_pos y
  obtain ⟨cycle, dayOfCycle, hdays, hday⟩ : ∃ (cycle : Int) (dayOfCycle : Nat),
      days + epochDay = cycleLength * cycle + dayOfCycle ∧ dayOfCycle < cycleLength := by
    refine ⟨(days + epochDay) / cycleLength, ((days + epochDay) % cycleLength).toNat, ?_, ?_⟩ <;>
      unfold cycleLength <;> omega
  obtain ⟨y, dayOfYear, hplace, hy, hlt⟩ := exists_year hday
  rw [ofEpochDay_eq cycle hday hplace hdays]
  have hlength := yearLength_add_cycles cycle y
  have hnewYear : dayOfYear + 1 = yearLength y →
      ofDayOfYear (400 * cycle + y + 1) 0 = (ofDayOfYear (400 * cycle + y) dayOfYear).next :=
    fun h => ofDayOfYear_last (h.trans hlength.symm)
  -- The last day of a cycle is the last of its year too, so the step to another cycle is the step
  -- to another year.
  by_cases hlast : dayOfCycle + 1 < cycleLength
  case pos =>
    have hsucc := locate_succ hpos (sum_yearLengths ▸ hlast)
    rw [hplace, getElem?_yearLengths hy] at hsucc
    dsimp only at hsucc
    split at hsucc
    case isTrue hend =>
      have hnext : 400 * cycle + ((y + 1 : Nat) : Int) = 400 * cycle + y + 1 := by omega
      rw [ofEpochDay_eq cycle hlast hsucc (by omega), hnext]
      exact hnewYear (Option.some.inj hend).symm
    case isFalse hend =>
      have hne : yearLength y ≠ dayOfYear + 1 := fun h => hend (congrArg some h)
      rw [ofEpochDay_eq cycle hlast hsucc (by omega)]
      exact ofDayOfYear_succ (by omega)
  case neg =>
    have hsum : dayOfCycle + 1 = yearLengths.sum := by
      rw [sum_yearLengths]
      omega
    obtain ⟨hyear, hend⟩ := locate_last hpos hsum
    rw [hplace] at hyear hend
    rw [getElem?_yearLengths hy] at hend
    have hyear : y + 1 = 400 := by simpa [yearLengths] using hyear
    have hzero : locate yearLengths 0 = (0, 0) := locate_zero hpos (by simp [yearLengths])
    have hdays' : days + 1 + epochDay = cycleLength * (cycle + 1) + (0 : Nat) := by
      unfold cycleLength at *
      omega
    have hnext : 400 * (cycle + 1) + ((0 : Nat) : Int) = 400 * cycle + y + 1 := by omega
    rw [ofEpochDay_eq (cycle + 1) (by decide) hzero hdays', hnext]
    exact hnewYear (Option.some.inj hend).symm

example : Date.ofEpochDay 0 = ⟨1970, 1, 1⟩ := by decide +kernel

end Calendar

end RecordSchema
