import RecordSchema.Proofs.Calendar
import RecordSchema.Proofs.Number.Numeral
import RecordSchema.Rule

/-!
# Timestamps as ISO 8601 texts

The text of a timestamp ends in `Z`. No date and no local time holds that letter, so of the three
forms only the one with an offset is left, and it reads four digits as the year: it takes back
what was printed exactly for the years 0 to 9999 (`timestamp_accepted_iff`).
-/

namespace RecordSchema

open Decimal (IsDigits)

-- ---------------------------------------------------------------------------
-- Fields of fixed width
-- ---------------------------------------------------------------------------

namespace Calendar

theorem ofDigitChars_replicate_zero (k : Nat) :
    Nat.ofDigitChars 10 (List.replicate k '0') 0 = 0 := by
  induction k with
  | zero => rfl
  | succ k ih => rw [List.replicate_succ, Nat.ofDigitChars_cons]; exact ih

/-- Zeros in front change neither the kind of the characters nor the value. -/
theorem padded_digits (width n : Nat) :
    IsDigits (padded width n).toList ∧ Decimal.digitsValue (padded width n).toList = n := by
  obtain ⟨hne, hds⟩ := Decimal.isDigits_toDigits n
  rw [padded, String.toList_ofList, Decimal.digitsValue_eq, Nat.ofDigitChars_append,
    ofDigitChars_replicate_zero, Nat.ofDigitChars_ten_toDigits]
  exact ⟨⟨List.append_ne_nil_of_right_ne_nil _ hne,
    List.forall_mem_append.mpr ⟨Decimal.isDigit_of_mem_zeros, hds⟩⟩, rfl⟩

theorem length_padded {width n : Nat} (hwidth : 0 < width) (hn : n < 10 ^ width) :
    (padded width n).toList.length = width := by
  have hle : (Nat.toDigits 10 n).length ≤ width :=
    (Nat.length_toDigits_le_iff (by decide) hwidth).mpr hn
  simp [padded, hle]

end Calendar

namespace Iso8601

open Calendar (padded Date)

theorem fixed?_padded {width n : Nat} (hwidth : 0 < width) (hn : n < 10 ^ width)
    (rest : List Char) : fixed? width ((padded width n).toList ++ rest) = some (n, rest) := by
  obtain ⟨⟨-, hds⟩, hvalue⟩ := Calendar.padded_digits width n
  have hlength := Calendar.length_padded hwidth hn
  have htake : ((padded width n).toList ++ rest).take width = (padded width n).toList :=
    List.take_left' hlength
  have hdrop : ((padded width n).toList ++ rest).drop width = rest := List.drop_left' hlength
  have hall : (padded width n).toList.all Char.isDigit = true := List.all_eq_true.mpr hds
  simp [fixed?, htake, hdrop, hlength, hall, hvalue]

theorem fixed?_of_not_isDigit {width : Nat} (hwidth : 0 < width) (hc : c.isDigit = false)
    (rest : List Char) : fixed? width (c :: rest) = none := by
  obtain ⟨width, rfl⟩ := Nat.exists_eq_add_of_lt hwidth
  simp [fixed?, hc]

theorem skipFraction?_padded (width nanos : Nat) :
    skipFraction? ('.' :: (padded width nanos).toList ++ ['Z']) = some ['Z'] := by
  obtain ⟨hds, -⟩ := Calendar.padded_digits width nanos
  have hrest : ∀ c ∈ ['Z'].head?, c.isDigit = false := by
    rintro _ ⟨⟩
    decide
  rw [List.cons_append, skipFraction?, (Decimal.takeWhile_digits hds.2 hrest).2]
  refine if_pos ?_
  obtain ⟨d, ds, htext⟩ := List.exists_cons_of_ne_nil hds.1
  rw [htext] at hds ⊢
  exact hds.2 d List.mem_cons_self

/-- A fraction, if there is one, is read up to the offset. -/
theorem skipFraction?_fractionText (nanos : Nat) :
    skipFraction? ((Timestamp.fractionText nanos).toList ++ ['Z']) = some ['Z'] := by
  have hpoint (width n : Nat) :
      skipFraction? (("." ++ padded width n).toList ++ ['Z']) = some ['Z'] := by
    rw [String.toList_append]
    exact skipFraction?_padded width n
  unfold Timestamp.fractionText
  split
  · rfl
  · split
    · exact hpoint 3 _
    · split
      · exact hpoint 6 _
      · exact hpoint 9 _

-- ---------------------------------------------------------------------------
-- Date and time with an offset
-- ---------------------------------------------------------------------------

/-- The text of a date and a time in UTC, with the year as it is written. -/
def offsetText (year : List Char) (month day hour minute second nanos : Nat) : List Char :=
  year ++ ('-' :: ((padded 2 month).toList ++ ('-' :: ((padded 2 day).toList ++
    ('T' :: ((padded 2 hour).toList ++ (':' :: ((padded 2 minute).toList ++
      (':' :: ((padded 2 second).toList ++
        ((Timestamp.fractionText nanos).toList ++ ['Z'])))))))))))

/-- Fields of their width are read as they were written. -/
theorem isOffsetDateTime_offsetText {year month day hour minute second nanos : Nat}
    (hyear : year < 10000) (hmonth : month < 100) (hday : day < 100) (hhour : hour < 100)
    (hminute : minute < 100) (hsecond : second < 100) :
    isOffsetDateTime (offsetText (padded 4 year).toList month day hour minute second nanos) =
      ((Date.mk year month day).isValid && isTime hour minute second) := by
  have htwo : ∀ {n}, n < 100 → ∀ rest, fixed? 2 ((padded 2 n).toList ++ rest) = some (n, rest) :=
    fun hn => fixed?_padded (by decide) hn
  have hfour : ∀ rest, fixed? 4 ((padded 4 year).toList ++ rest) = some (year, rest) :=
    fixed?_padded (by decide) hyear
  have hoffset : isOffset ['Z'] = true := rfl
  simp only [isOffsetDateTime, offsetText, hfour, mark?, beq_self_eq_true, Bool.true_or, if_true,
    Option.bind_eq_bind, Option.bind_some, htwo hmonth, htwo hday, htwo hhour, htwo hminute,
    htwo hsecond, skipFraction?_fractionText, hoffset, Bool.and_true, Option.getD_some]

/-- A year that does not start with a digit is no year of four digits. -/
theorem isOffsetDateTime_of_not_isDigit {c : Char} (hc : c.isDigit = false) (rest : List Char) :
    isOffsetDateTime (c :: rest) = false := by
  rw [isOffsetDateTime, fixed?_of_not_isDigit (by decide) hc]
  rfl

-- ---------------------------------------------------------------------------
-- Dates and local times
-- ---------------------------------------------------------------------------

/-- The characters of dates and local times. -/
def IsLooseChar (c : Char) : Prop :=
  Text.isBlank c = true ∨ c.isDigit = true ∨ c ∈ ['+', '-', ':', '.', 'T']

/-- A text was read up to the rest, and what was read has only these characters. -/
def Reads (cs rest : List Char) : Prop := ∃ part, cs = part ++ rest ∧ ∀ c ∈ part, IsLooseChar c

theorem Reads.trans (h : Reads cs mid) (h' : Reads mid rest) : Reads cs rest := by
  obtain ⟨part, rfl, hpart⟩ := h
  obtain ⟨part', rfl, hpart'⟩ := h'
  exact ⟨part ++ part', (List.append_assoc _ _ _).symm, List.forall_mem_append.mpr ⟨hpart, hpart'⟩⟩

theorem Reads.cons (hc : IsLooseChar c) (h : Reads cs rest) : Reads (c :: cs) rest := by
  obtain ⟨part, rfl, hpart⟩ := h
  exact ⟨c :: part, rfl, List.forall_mem_cons.mpr ⟨hc, hpart⟩⟩

theorem Reads.refl (cs : List Char) : Reads cs cs := ⟨[], rfl, nofun⟩

theorem Reads.dropWhile {p : Char → Bool} (hp : ∀ c, p c = true → IsLooseChar c) (cs : List Char) :
    Reads cs (cs.dropWhile p) :=
  ⟨cs.takeWhile p, List.takeWhile_append_dropWhile.symm,
    fun c hc => hp c (List.mem_takeWhile_imp hc)⟩

theorem reads_blanks (cs : List Char) : Reads cs (cs.dropWhile Text.isBlank) :=
  .dropWhile (fun _ => .inl) cs

theorem loose?_reads (h : loose? width cs = some (n, rest)) : Reads cs rest := by
  refine (reads_blanks cs).trans ?_
  unfold loose? at h
  generalize cs.dropWhile Text.isBlank = body at h ⊢
  dsimp only at h
  split at h
  · cases h
  · cases h
    have hdigits : ∀ c ∈ (body.take width).takeWhile Char.isDigit, IsLooseChar c :=
      fun c hc => .inr (.inl (List.mem_takeWhile_imp hc))
    obtain ⟨after, hafter⟩ : (body.take width).takeWhile Char.isDigit <+: body :=
      (List.takeWhile_prefix _).trans (List.take_prefix width body)
    generalize (body.take width).takeWhile Char.isDigit = ds at hafter hdigits ⊢
    subst hafter
    exact ⟨ds, by rw [List.drop_left], hdigits⟩

theorem mark?_reads {accepts : Char → Bool} (haccepts : ∀ c, accepts c = true → IsLooseChar c)
    (h : mark? accepts cs = some rest) : Reads cs rest := by
  cases cs with
  | nil => cases h
  | cons c rest' =>
    obtain ⟨hc, h⟩ := Option.ite_none_right_eq_some.mp h
    cases h
    exact .cons (haccepts c hc) (.refl _)

theorem mark?_eq_reads {mark : Char} (hmark : IsLooseChar mark)
    (h : mark? (· == mark) cs = some rest) : Reads cs rest :=
  mark?_reads (fun c hc => by rwa [beq_iff_eq.mp hc]) h

theorem year?_reads (h : year? cs = some (year, rest)) : Reads cs rest := by
  refine (reads_blanks cs).trans ?_
  unfold year? at h
  generalize cs.dropWhile Text.isBlank = body at h ⊢
  dsimp only at h
  split at h
  · obtain ⟨⟨n, after⟩, hn, h⟩ := Option.bind_eq_some_iff.mp h
    obtain ⟨-, h⟩ := Option.ite_none_right_eq_some.mp h
    cases h
    exact .cons (.inr (.inr (by decide))) (loose?_reads hn)
  · obtain ⟨⟨n, after⟩, hn, h⟩ := Option.bind_eq_some_iff.mp h
    obtain ⟨-, h⟩ := Option.ite_none_right_eq_some.mp h
    cases h
    exact .cons (.inr (.inr (by decide))) (loose?_reads hn)
  · obtain ⟨⟨n, after⟩, hn, h⟩ := Option.map_eq_some_iff.mp h
    cases h
    exact loose?_reads hn

theorem date?_reads (h : date? cs = some (date, rest)) : Reads cs rest := by
  have hhyphen : IsLooseChar '-' := .inr (.inr (by decide))
  simp only [date?, Option.bind_eq_bind, Option.bind_eq_some_iff] at h
  obtain ⟨⟨year, afterYear⟩, hyear, afterMark, hmark, ⟨month, afterMonth⟩, hmonth, afterMark',
    hmark', ⟨day, afterDay⟩, hday, h⟩ := h
  obtain ⟨-, h⟩ := Option.ite_none_right_eq_some.mp h
  cases h
  exact (year?_reads hyear).trans <| (mark?_eq_reads hhyphen hmark).trans <|
    (loose?_reads hmonth).trans <| (mark?_eq_reads hhyphen hmark').trans (loose?_reads hday)

theorem skipFraction?_reads (h : skipFraction? cs = some rest) : Reads cs rest := by
  unfold skipFraction? at h
  split at h
  · obtain ⟨-, h⟩ := Option.ite_none_right_eq_some.mp h
    cases h
    exact .cons (.inr (.inr (by decide))) (.dropWhile (fun _ hc => .inr (.inl hc)) _)
  · cases h
    exact .refl _

theorem isDate_reads (h : isDate cs = true) : Reads cs [] := by
  unfold isDate at h
  split at h
  · rename_i date rest hdate
    rw [List.isEmpty_iff] at h
    exact h ▸ date?_reads hdate
  · cases h

theorem isLocalDateTime_reads (h : isLocalDateTime cs = true) : Reads cs [] := by
  have hT : IsLooseChar 'T' := .inr (.inr (by decide))
  have hcolon : IsLooseChar ':' := .inr (.inr (by decide))
  have h := Option.getD_eq_iff.mp h
  simp only [Option.bind_eq_bind, Option.bind_eq_some_iff, Bool.false_eq_true, and_false, or_false]
    at h
  obtain ⟨⟨date, afterDate⟩, hdate, afterT, hmarkT, ⟨hour, afterHour⟩, hhour, afterColon, hmark,
    ⟨minute, afterMinute⟩, hminute, afterColon', hmark', ⟨second, afterSecond⟩, hsecond, rest,
    hfraction, h⟩ := h
  obtain ⟨-, hrest⟩ := Bool.and_eq_true_iff.mp (Option.some.inj h)
  rw [List.isEmpty_iff] at hrest
  subst hrest
  exact (date?_reads hdate).trans <| (mark?_eq_reads hT hmarkT).trans <|
    (loose?_reads hhour).trans <| (mark?_eq_reads hcolon hmark).trans <|
    (loose?_reads hminute).trans <| (mark?_eq_reads hcolon hmark').trans <|
    (loose?_reads hsecond).trans (skipFraction?_reads hfraction)

/-- A text that ends in an offset is read by the first form only. -/
theorem accepts_of_mem_Z (h : 'Z' ∈ cs) : accepts cs = isOffsetDateTime cs := by
  have hnone : ¬ Reads cs [] := by
    rintro ⟨part, rfl, hpart⟩
    rw [List.append_nil] at h
    exact absurd (hpart _ h) (by unfold IsLooseChar; decide +kernel)
  have hlocal : isLocalDateTime cs = false :=
    Bool.eq_false_iff.mpr fun h => hnone (isLocalDateTime_reads h)
  have hdate : isDate cs = false := Bool.eq_false_iff.mpr fun h => hnone (isDate_reads h)
  rw [accepts, hlocal, hdate, Bool.or_false, Bool.or_false]

end Iso8601

-- ---------------------------------------------------------------------------
-- Timestamps
-- ---------------------------------------------------------------------------

namespace Timestamp

open Calendar (padded yearText Date)
open Iso8601 (offsetText)

theorem text_toList (t : Timestamp) : t.text.toList =
    offsetText (yearText t.date.year).toList t.date.month t.date.day
      ((t.seconds % 86400).toNat / 3600) ((t.seconds % 86400).toNat / 60 % 60)
      ((t.seconds % 86400).toNat % 60 + t.nanos / nanosPerSecond) (t.nanos % nanosPerSecond) := by
  simp [text, Date.text, offsetText]

/-- The time of day, in a leap second too, is one that the rule reads. -/
theorem isTime_secondOfDay (t : Timestamp) :
    Iso8601.isTime ((t.seconds % 86400).toNat / 3600) ((t.seconds % 86400).toNat / 60 % 60)
      ((t.seconds % 86400).toNat % 60 + t.nanos / nanosPerSecond) = true := by
  have hvalid := t.valid
  simp only [Iso8601.isTime, Bool.and_eq_true, decide_eq_true_eq]
  unfold nanosPerSecond at *
  omega

/-- Other years start with their sign. -/
theorem yearText_of_not_mem {year : Int} (h : ¬ (0 ≤ year ∧ year ≤ 9999)) :
    ∃ sign digits, (yearText year).toList = sign :: digits ∧ sign.isDigit = false := by
  rw [yearText, if_neg h, String.toList_append]
  split
  · exact ⟨'-', _, rfl, rfl⟩
  · exact ⟨'+', _, rfl, rfl⟩

theorem accepts_text_iff (t : Timestamp) :
    Iso8601.accepts t.text.toList = true ↔ 0 ≤ t.date.year ∧ t.date.year ≤ 9999 := by
  have hZ : 'Z' ∈ t.text.toList := by simp [text]
  rw [Iso8601.accepts_of_mem_Z hZ, text_toList]
  -- A year with a sign fails before its date is looked at; any other date exists.
  by_cases hyear : 0 ≤ t.date.year ∧ t.date.year ≤ 9999
  case neg =>
    obtain ⟨sign, digits, htext, hsign⟩ := yearText_of_not_mem hyear
    rw [htext, offsetText, List.cons_append, Iso8601.isOffsetDateTime_of_not_isDigit hsign]
    simp [hyear]
  case pos =>
    have hdate : t.date.isValid = true := Date.ofEpochDay_isValid _
    obtain ⟨hmonth, hday⟩ := Date.month_day_le hdate
    have htime := t.isTime_secondOfDay
    have hbounds := htime
    simp only [Iso8601.isTime, Bool.and_eq_true, decide_eq_true_eq] at hbounds
    have hfour : yearText t.date.year = padded 4 t.date.year.natAbs := if_pos hyear
    have hnat : (t.date.year.natAbs : Int) = t.date.year := Int.natAbs_of_nonneg hyear.1
    rw [hfour, Iso8601.isOffsetDateTime_offsetText (by omega) (by omega) (by omega) (by omega)
      (by omega) (by omega), hnat, htime, Bool.and_true]
    exact iff_of_true hdate hyear

/-- The years 0 to 9999 in seconds. -/
theorem year_iff (t : Timestamp) : (0 ≤ t.date.year ∧ t.date.year ≤ 9999) ↔
    -62167219200 ≤ t.seconds ∧ t.seconds < 253402300800 := by
  rw [date, Date.year_ofEpochDay_iff]
  unfold Calendar.epochDay Calendar.cycleLength
  omega

end Timestamp

namespace Rule

/-- The rule takes back the text of every timestamp from the first second of year 0 to the last of
year 9999, and of no other. -/
theorem timestamp_accepted_iff (t : Timestamp) (args : List Json) :
    ∃ rule, ofName "isISO8601" args = .ok rule ∧ ∀ data,
      (rule.evaluate (.dateTime t) data = true ↔ 0 ≤ t.date.year ∧ t.date.year ≤ 9999) ∧
      (rule.evaluate (.dateTime t) data = true ↔
        -62167219200 ≤ t.seconds ∧ t.seconds < 253402300800) := by
  refine ⟨.named "isISO8601" args .iso8601, rfl, fun data => ?_⟩
  have haccepts : Check.iso8601.accepts t.text = true ↔ 0 ≤ t.date.year ∧ t.date.year ≤ 9999 :=
    t.accepts_text_iff
  rw [evaluate_of_textForm (show (Value.dateTime t).textForm = some t.text from rfl)]
  exact ⟨haccepts, haccepts.trans t.year_iff⟩

/-- A leap second in the middle of a minute. -/
example : Timestamp.text ⟨30, 1500000000, by decide⟩ = "1970-01-01T00:00:31.500Z" := by
  decide +kernel

end Rule

end RecordSchema
