import RecordSchema.Proofs.Rule.Numeral
import RecordSchema.Rule

/-!
# Numerals of numbers

The text of a number tells how the number is kept: an integer has neither point nor exponent, and a
double has one of them (`numberText_isFloatText`). The checks on numerals see that difference and
no other (`number_text_classified`).
-/

namespace RecordSchema

namespace Decimal

-- ---------------------------------------------------------------------------
-- Grammars
-- ---------------------------------------------------------------------------

/-- An exponent part, with its mark, stands at the end. -/
def HasExponent (cs : List Char) : Prop :=
  ∃ before mark after k, cs = before ++ mark :: after ∧ IsExponent (mark :: after) k

/-- The texts of doubles: with a point and digits behind it, or with an exponent. -/
inductive IsFloatText : List Char → Prop
  | point (hsign : IsSign sign negative) (hwhole : ∀ d ∈ whole, d.isDigit = true)
      (hfraction : IsDigits fraction) : IsFloatText (sign ++ (whole ++ '.' :: fraction))
  | scientific (hsign : IsSign sign negative) (hm : IsMantissa m c places)
      (he : IsExponent (mark :: e) k) : IsFloatText (sign ++ (m ++ mark :: e))

theorem HasExponent.exists_mark (h : HasExponent cs) :
    ∃ mark ∈ cs, Numeral.isExponentMark mark = true := by
  obtain ⟨before, mark, after, k, rfl, he⟩ := h
  exact ⟨mark, by simp, Numeral.isExponentMark_iff.mpr (he.head mark rfl)⟩

theorem isExponentMark_of_isDigit {d : Char} (h : d.isDigit = true) :
    Numeral.isExponentMark d = false := by
  rw [← Bool.not_eq_true, Numeral.isExponentMark_iff]
  rintro (rfl | rfl) <;> revert h <;> decide

theorem IsSign.not_exponentMark (h : IsSign sign negative) :
    ∀ c ∈ sign, Numeral.isExponentMark c = false := by
  cases h <;> simp [Numeral.isExponentMark]

/-- Numerals have signs, digits and a point only. -/
theorem IsNumeral.not_hasExponent (h : IsNumeral cs) : ¬ HasExponent cs := by
  have hmarks : ∀ c ∈ cs, Numeral.isExponentMark c = false := by
    cases h with
    | whole hsign hds =>
      exact List.forall_mem_append.mpr
        ⟨hsign.not_exponentMark, fun d hd => isExponentMark_of_isDigit (hds.2 d hd)⟩
    | point hsign hwhole hds =>
      exact List.forall_mem_append.mpr ⟨hsign.not_exponentMark, List.forall_mem_append.mpr
        ⟨fun d hd => isExponentMark_of_isDigit (hwhole d hd), List.forall_mem_cons.mpr
          ⟨by decide, fun d hd => isExponentMark_of_isDigit (hds.2 d hd)⟩⟩⟩
  intro hexponent
  obtain ⟨mark, hmem, hmark⟩ := hexponent.exists_mark
  rw [hmarks mark hmem] at hmark
  cases hmark

theorem IsInteger.chars (h : IsInteger cs n) : ∀ c ∈ cs, c.isDigit = true ∨ c = '+' ∨ c = '-' := by
  obtain ⟨hsign, hds⟩ := h
  refine List.forall_mem_append.mpr ⟨?_, fun d hd => .inl (hds.2 d hd)⟩
  cases hsign <;> simp

theorem IsFloatText.isDecimal (h : IsFloatText cs) : ∃ q, IsDecimal cs q := by
  cases h with
  | point hsign hwhole hfraction => exact (IsNumeral.point hsign hwhole hfraction).isDecimal
  | scientific hsign hm he => exact ⟨_, .mk hsign hm he⟩

/-- The point and the exponent mark are in no integer. -/
theorem IsFloatText.not_isInteger (h : IsFloatText cs) : ¬ IsInteger cs n := by
  intro hinteger
  cases h with
  | point => exact absurd (hinteger.chars '.' (by simp)) (by decide)
  | @scientific sign negative m c places mark e k _ _ he =>
    have hmark := hinteger.chars mark (by simp)
    rcases he.head mark rfl with rfl | rfl <;> exact absurd hmark (by decide)

theorem IsFloatText.isNumeral_iff (h : IsFloatText cs) : IsNumeral cs ↔ ¬ HasExponent cs := by
  refine ⟨IsNumeral.not_hasExponent, fun hnone => ?_⟩
  cases h with
  | point hsign hwhole hfraction => exact .point hsign hwhole hfraction
  | @scientific sign negative m c places mark e k _ _ he =>
    exact absurd ⟨sign ++ m, mark, e, k, (List.append_assoc _ _ _).symm, he⟩ hnone

-- ---------------------------------------------------------------------------
-- Digits
-- ---------------------------------------------------------------------------

/-- Digits of a positive number start with another one than zero. -/
theorem head_toDigits (hn : n ≠ 0) : (Nat.toDigits 10 n).head? ≠ some '0' := by
  induction n using Nat.strongRecOn with
  | ind n ih =>
    rcases Nat.lt_or_ge n 10 with hlt | hge
    · rw [Nat.toDigits_of_lt_base hlt]
      simpa using hn
    · have ih := ih (n / 10) (by omega) (by omega)
      obtain ⟨d, rest, hds⟩ :=
        List.exists_cons_of_ne_nil (Nat.toDigits_ne_nil (n := n / 10) (b := 10))
      rw [Nat.toDigits_of_base_le (by decide) hge, hds]
      rwa [hds] at ih

theorem isPlainInteger_toDigits (hsign : IsSign sign negative) (n : Nat) :
    IsPlainInteger (sign ++ Nat.toDigits 10 n) := by
  by_cases hn : n = 0
  · subst hn
    exact .zero hsign
  · have hds := isDigits_toDigits n
    have hhead := head_toDigits hn
    obtain ⟨d, rest, htext⟩ := List.exists_cons_of_ne_nil hds.1
    rw [htext] at hds hhead ⊢
    exact .nonzero hsign hds fun hd => hhead (congrArg some hd)

end Decimal

-- ---------------------------------------------------------------------------
-- Layouts
-- ---------------------------------------------------------------------------

namespace Binary64

open Decimal

theorem isSign_signText (negative : Bool) : IsSign (signText negative).toList negative := by
  cases negative
  · exact .none
  · exact .minus

/-- In positional notation the point stands behind the digits, among them, or before them with
zeros between. -/
theorem positional_point (digits : Nat) (scale : Int) :
    ∃ whole fraction, (∀ d ∈ whole, d.isDigit = true) ∧ IsDigits fraction ∧
      (positional digits scale ++ if 0 ≤ scale then ".0" else "").toList =
        whole ++ '.' :: fraction := by
  have hds := isDigits_toDigits digits
  have hzeros : ∀ n, ∀ d ∈ (zeros n).toList, d.isDigit = true := fun n => by
    rw [zeros, String.toList_ofList]
    exact isDigit_of_mem_zeros
  unfold positional
  dsimp only
  generalize Nat.toDigits 10 digits = ds at hds ⊢
  by_cases hscale : 0 ≤ scale
  · refine ⟨ds ++ (zeros scale.toNat).toList, ['0'], ?_, ?_, ?_⟩
    · exact List.forall_mem_append.mpr ⟨hds.2, hzeros _⟩
    · exact ⟨List.cons_ne_nil _ _, List.forall_mem_singleton.mpr (by decide)⟩
    · simp [hscale]
  · by_cases hpoint : 0 < (ds.length : Int) + scale
    · generalize hplace : ((ds.length : Int) + scale).toNat = place
      refine ⟨ds.take place, ds.drop place, ?_, ⟨?_, ?_⟩, ?_⟩
      · exact fun d hd => hds.2 d (List.mem_of_mem_take hd)
      · rw [ne_eq, List.drop_eq_nil_iff]
        omega
      · exact fun d hd => hds.2 d (List.mem_of_mem_drop hd)
      · simp [hscale, hpoint]
    · refine ⟨['0'], (zeros (-((ds.length : Int) + scale)).toNat).toList ++ ds, ?_, ⟨?_, ?_⟩, ?_⟩
      · exact List.forall_mem_singleton.mpr (by decide)
      · exact List.append_ne_nil_of_right_ne_nil _ hds.1
      · exact List.forall_mem_append.mpr ⟨hzeros _, hds.2⟩
      · simp [hscale, hpoint]

/-- In scientific notation one digit stands before the point, if there is one, and the exponent
carries its sign. -/
theorem scientific_exponent (digits : Nat) (scale : Int) :
    ∃ m c places e k, IsMantissa m c places ∧ IsExponent ('e' :: e) k ∧
      (scientific digits scale).toList = m ++ 'e' :: e := by
  have hds := isDigits_toDigits digits
  unfold scientific
  dsimp only
  generalize Nat.toDigits 10 digits = ds at hds ⊢
  generalize scale + ds.length - 1 = exponent
  have he : ∃ e k, IsExponent ('e' :: e) k ∧
      ((if exponent < 0 then "-" else "+") ++ Nat.repr exponent.natAbs).toList = e := by
    have hdigits := isDigits_toDigits exponent.natAbs
    split
    · exact ⟨_, _, .mark (.inl rfl) (.mk .minus hdigits), by simp⟩
    · exact ⟨_, _, .mark (.inl rfl) (.mk .plus hdigits), by simp⟩
  obtain ⟨e, k, he, htext⟩ := he
  by_cases hlength : ds.length ≤ 1
  · have htake : ds.take 1 = ds := List.take_of_length_le hlength
    exact ⟨ds, _, _, e, k, .whole hds, he, by simp [hlength, htake, ← htext]⟩
  · have hparts : IsDigits (ds.take 1 ++ ds.drop 1) := by rwa [List.take_append_drop]
    exact ⟨_, _, _, e, k, .point hparts, he, by simp [hlength, ← htext]⟩

theorem numberText_isFloatText (x : Finite) : IsFloatText x.numberText.toList := by
  have hsign := isSign_signText x.negative
  unfold Finite.numberText
  split
  · have hzero : ∀ d ∈ ['0'], d.isDigit = true := List.forall_mem_singleton.mpr (by decide)
    rw [String.toList_append]
    exact .point hsign hzero ⟨List.cons_ne_nil _ _, hzero⟩
  · dsimp only
    split
    · obtain ⟨whole, fraction, hwhole, hfraction, htext⟩ := positional_point _ _
      rw [String.toList_append, htext]
      exact .point hsign hwhole hfraction
    · obtain ⟨m, c, places, e, k, hm, he, htext⟩ := scientific_exponent _ _
      rw [String.toList_append, htext]
      exact .scientific hsign hm he

end Binary64

-- ---------------------------------------------------------------------------
-- Numbers
-- ---------------------------------------------------------------------------

namespace Number

open Decimal

/-- Kept as an integer, not as a double. -/
def IsInteger : Number → Prop
  | .integer _ _ => True
  | .float _ => False

theorem isPlainInteger_text (n : Int) (hrange : Int64Or n) :
    IsPlainInteger (Number.integer n hrange).text.toList := by
  rw [text, String.toList_append, Nat.toList_repr]
  by_cases hn : n < 0
  · simpa [text.signText, hn] using isPlainInteger_toDigits .minus n.natAbs
  · simpa [text.signText, hn] using isPlainInteger_toDigits .none n.natAbs

theorem text_float (x : Binary64.Finite) : IsFloatText (Number.float x).text.toList :=
  Binary64.numberText_isFloatText x

theorem text_isDecimal (n : Number) : ∃ q, IsDecimal n.text.toList q := by
  cases n with
  | integer n hrange => exact (isPlainInteger_text n hrange).isNumeral.isDecimal
  | float x => exact (text_float x).isDecimal

theorem text_isPlainInteger_iff (n : Number) : IsPlainInteger n.text.toList ↔ n.IsInteger := by
  cases n with
  | integer n hrange => exact iff_of_true (isPlainInteger_text n hrange) trivial
  | float x =>
    refine iff_of_false (fun h => ?_) id
    obtain ⟨_, h⟩ := h.isInteger
    exact (text_float x).not_isInteger h

/-- Of any width, or without leading zeros: an integer for both, and a double for neither. -/
theorem text_isInteger_iff (n : Number) :
    (∃ m, Decimal.IsInteger n.text.toList m) ↔ n.IsInteger := by
  cases n with
  | integer n hrange => exact iff_of_true (isPlainInteger_text n hrange).isInteger trivial
  | float x => exact iff_of_false (fun ⟨_, h⟩ => (text_float x).not_isInteger h) id

theorem text_isNumeral_iff (n : Number) :
    IsNumeral n.text.toList ↔ ¬ HasExponent n.text.toList := by
  cases n with
  | integer n hrange =>
    have h := (isPlainInteger_text n hrange).isNumeral
    exact iff_of_true h h.not_hasExponent
  | float x => exact (text_float x).isNumeral_iff

end Number

-- ---------------------------------------------------------------------------
-- Rules
-- ---------------------------------------------------------------------------

namespace Rule

open Decimal (HasExponent)

/-- Every number is a float. It is an integer when it is kept as one, which its text tells also to
the readers of tagged integers, and it is numeric when its text has no exponent. -/
theorem number_text_classified (n : Number) (args : List Json) :
    ∃ isFloat isInt isNumeric, ofName "isFloat" args = .ok isFloat ∧
      ofName "isInt" args = .ok isInt ∧ ofName "isNumeric" args = .ok isNumeric ∧ ∀ data,
      isFloat.evaluate (.number n) data = true ∧
      (isInt.evaluate (.number n) data = true ↔ n.IsInteger) ∧
      (isNumeric.evaluate (.number n) data = true ↔ ¬ HasExponent n.text.toList) ∧
      ((TaggedInt.mk n.text).isIntegral = true ↔ isInt.evaluate (.number n) data = true) := by
  refine ⟨.named "isFloat" args .float, .named "isInt" args .int, .named "isNumeric" args .numeric,
    rfl, rfl, rfl, fun data => ?_⟩
  have hint : Check.int.accepts n.text = true ↔ n.IsInteger :=
    Numeral.isInt_iff.trans n.text_isPlainInteger_iff
  have htext : (Value.number n).textForm = some n.text := rfl
  simp only [evaluate_of_textForm htext]
  refine ⟨Numeral.isFloat_iff.mpr n.text_isDecimal, hint,
    Numeral.isNumeric_iff.trans n.text_isNumeral_iff, ?_⟩
  rw [hint, TaggedInt.isIntegral_iff]
  exact n.text_isInteger_iff

end Rule

end RecordSchema
