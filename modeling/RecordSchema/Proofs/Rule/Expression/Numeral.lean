import RecordSchema.Proofs.Rule.Expression.Class
import RecordSchema.Proofs.Rule.Numeral
import RecordSchema.Validation

/-!
# Numerals and dates as patterns
-/

namespace RecordSchema

open Computability Unicode Pattern

namespace Expression

theorem mem_sign_mul {L : Language Char} :
    cs ∈ (1 + letters fun c => c == '+' || c == '-') * L ↔
      ∃ sign negative rest, Decimal.IsSign sign negative ∧ rest ∈ L ∧ cs = sign ++ rest := by
  rw [mem_optional_mul, mem_letters_mul]
  constructor
  · rintro (hcs | ⟨c, rest, hc, hrest, rfl⟩)
    · exact ⟨[], _, cs, .none, hcs, rfl⟩
    · obtain rfl | rfl : c = '+' ∨ c = '-' := by simpa using hc
      · exact ⟨['+'], _, rest, .plus, hrest, rfl⟩
      · exact ⟨['-'], _, rest, .minus, hrest, rfl⟩
  · rintro ⟨_, _, rest, hsign, hrest, rfl⟩
    cases hsign with
    | none => exact .inl hrest
    | plus => exact .inr ⟨'+', rest, rfl, hrest, rfl⟩
    | minus => exact .inr ⟨'-', rest, rfl, hrest, rfl⟩

theorem mem_digits : cs ∈ letters Char.isDigit * (letters Char.isDigit)∗ ↔ Decimal.IsDigits cs :=
  mem_letters_some

def numericText : String := "^[+-]?([0-9]*[.])?[0-9]+$"

def numeric : List Pattern :=
  [optional sign, optional (.group true (.concat [.repeated digit 0 none, .char (.single '.') 1])),
    .repeated digit 1 none]

theorem describes_numeric : Describes numericText Numeral.isNumeric := by
  refine describes_of_language (show _ = some (anchored numeric) by cbv) rfl fun cs => ?_
  have hlanguage : languageAll numeric = (1 + letters fun c => c == '+' || c == '-') *
      ((1 + (letters Char.isDigit)∗ * {['.']}) *
        (letters Char.isDigit * (letters Char.isDigit)∗)) := by
    simp [numeric, languageAll]
  rw [hlanguage, mem_sign_mul, Numeral.isNumeric_iff]
  simp only [mem_optional_mul, mul_assoc _ {['.']}, mem_kstar_mul, mem_singleton_mul, mem_digits]
  constructor
  · rintro (⟨hsign, hds⟩ | ⟨hsign, hwhole, hds⟩)
    · exact ⟨_, _, _, hsign, .inl hds, rfl⟩
    · exact ⟨_, _, _, hsign, .inr ⟨_, _, hwhole, ⟨_, hds, rfl⟩, rfl⟩, rfl⟩
  · rintro ⟨_, _, _, hsign, hds | ⟨_, _, hwhole, ⟨_, hds, rfl⟩, rfl⟩, rfl⟩
    · exact .whole hsign hds
    · exact .point hsign hwhole hds

def intText : String := "^[-+]?(0|[1-9][0-9]*)$"

def int : List Pattern :=
  [optional sign, .group true (.branch [.char (.single '0') 0,
    .concat [.char (.range '1' '9') 1, .repeated digit 0 none]])]

/-- The digits but `0` are a range of their own. -/
theorem isDigit_and_ne_zero_iff {c : Char} :
    c.isDigit = true ∧ c ≠ '0' ↔ '1' ≤ c ∧ c ≤ '9' := by
  have hne : c ≠ '0' ↔ c.toNat ≠ 48 := not_congr Char.toNat_inj.symm
  have hlow : '1' ≤ c ↔ 49 ≤ c.toNat := Iff.rfl
  have hhigh : c ≤ '9' ↔ c.toNat ≤ 57 := Iff.rfl
  have hdigit : c.isDigit = true ↔ 48 ≤ c.toNat ∧ c.toNat ≤ 57 := by
    rw [isDigit_iff_reaches, CharSet.reaches_cons, or_iff_left CharSet.not_reaches_nil]
    rfl
  rw [hdigit, hne, hlow, hhigh]
  omega

theorem describes_int : Describes intText Numeral.isInt := by
  refine describes_of_language (show _ = some (anchored int) by cbv) rfl fun cs => ?_
  have hlanguage : languageAll int = (1 + letters fun c => c == '+' || c == '-') *
      ({['0']} + letters (fun c => decide ('1' ≤ c) && decide (c ≤ '9')) *
        (letters Char.isDigit)∗) := by
    simp [int, languageAll, languageAny, language_class 1 fun _ => contains_range]
  rw [hlanguage, mem_sign_mul, Numeral.isInt_iff]
  simp only [Language.mem_add, mem_letters_mul, mem_letters_kstar, Bool.and_eq_true,
    decide_eq_true_eq, ← isDigit_and_ne_zero_iff]
  constructor
  · rintro (hsign | ⟨hsign, ⟨-, hds⟩, hd⟩)
    · exact ⟨_, _, _, hsign, .inl rfl, rfl⟩
    · obtain ⟨hd', hds⟩ := List.forall_mem_cons.mp hds
      exact ⟨_, _, _, hsign, .inr ⟨_, _, ⟨hd', hd⟩, hds, rfl⟩, rfl⟩
  · rintro ⟨_, _, _, hsign, rfl | ⟨d, ds, ⟨hd', hd⟩, hds, rfl⟩, rfl⟩
    · exact .zero hsign
    · exact .nonzero hsign ⟨List.cons_ne_nil d ds, List.forall_mem_cons.mpr ⟨hd', hds⟩⟩ hd

/-- `[eE]` -/
def exponentMark : Pattern := .char (.unions [.single 'e', .single 'E']) 2

@[simp] theorem language_exponentMark :
    exponentMark.language = letters Numeral.isExponentMark := by
  refine language_class 2 fun c => ?_
  rw [Bool.eq_iff_iff, CharSet.contains_unions, Numeral.isExponentMark_iff]
  simp [CharSet.holds_single]

def floatText : String := "^[-+]?[0-9]*(\\.[0-9]*)?([eE][-+]?[0-9]+)?$"

def float : List Pattern :=
  [optional sign, .repeated digit 0 none,
    optional (.group true (.concat [.char (.single '.') 0, .repeated digit 0 none])),
    optional (.group true (.concat [exponentMark, optional sign, .repeated digit 1 none]))]

theorem mem_exponent :
    cs ∈ 1 + letters Numeral.isExponentMark * ((1 + letters fun c => c == '+' || c == '-') *
        (letters Char.isDigit * (letters Char.isDigit)∗)) ↔ ∃ k, Decimal.IsExponent cs k := by
  rw [Language.mem_add, Language.mem_one, mem_letters_mul]
  simp only [mem_sign_mul, mem_digits, Numeral.isExponentMark_iff]
  constructor
  · rintro (rfl | ⟨mark, _, hmark, ⟨_, _, _, hsign, hds, rfl⟩, rfl⟩)
    · exact ⟨_, .none⟩
    · exact ⟨_, .mark hmark (.mk hsign hds)⟩
  · rintro ⟨_, _ | ⟨hmark, ⟨hsign, hds⟩⟩⟩
    · exact .inl rfl
    · exact .inr ⟨_, _, hmark, ⟨_, _, _, hsign, hds, rfl⟩, rfl⟩

theorem describes_float : Describes floatText Numeral.hasFloatShape := by
  refine describes_of_language (show _ = some (anchored float) by cbv) rfl fun cs => ?_
  have hlanguage : languageAll float = (1 + letters fun c => c == '+' || c == '-') *
      ((letters Char.isDigit)∗ * ((1 + {['.']} * (letters Char.isDigit)∗) *
        (1 + letters Numeral.isExponentMark * ((1 + letters fun c => c == '+' || c == '-') *
          (letters Char.isDigit * (letters Char.isDigit)∗))))) := by
    simp [float, languageAll]
  rw [hlanguage, mem_sign_mul, Numeral.hasFloatShape_iff]
  simp only [mem_kstar_mul, mem_optional_mul, mul_assoc {['.']}, mem_singleton_mul, mem_exponent]
  constructor
  · rintro ⟨_, _, _, _, _, k, hsign, hds | ⟨hwhole, hfraction⟩, he, rfl⟩
    · exact ⟨_, _, _, hsign, ⟨_, _, hds, .inl ⟨k, he⟩, rfl⟩, rfl⟩
    · refine ⟨_, _, _, hsign, ⟨_, _, hwhole, .inr ⟨_, ⟨_, _, hfraction, ⟨k, he⟩, rfl⟩, rfl⟩, ?_⟩,
        rfl⟩
      rw [List.append_assoc, List.cons_append]
  · rintro ⟨_, _, _, hsign, ⟨_, _, hwhole,
      ⟨k, he⟩ | ⟨_, ⟨_, _, hfraction, ⟨k, he⟩, rfl⟩, rfl⟩, rfl⟩, rfl⟩
    · exact ⟨_, _, _, _, _, k, hsign, .whole hwhole, he, rfl⟩
    · refine ⟨_, _, _, _, _, k, hsign, .point hwhole hfraction, he, ?_⟩
      rw [List.append_assoc, List.cons_append]

-- ---------------------------------------------------------------------------
-- Dates
-- ---------------------------------------------------------------------------

def dateText : String := "^[0-9]{4}-[0-9]{2}-[0-9]{2}$"

def date : List Pattern :=
  [exactly 4 digit, .char (.single '-') 0, exactly 2 digit, .char (.single '-') 0, exactly 2 digit]

theorem describes_date : Describes dateText fun cs => isDateText (String.ofList cs) := by
  refine describes_of_language (show _ = some (anchored date) by cbv) rfl fun cs => ?_
  have hlanguage : languageAll date = letters Char.isDigit ^ 4 * ({['-']} *
      (letters Char.isDigit ^ 2 * ({['-']} * letters Char.isDigit ^ 2))) := by
    simp [date, languageAll]
  rw [hlanguage, isDateText, String.toList_ofList]
  simp only [pow_succ', pow_zero, mul_one, mul_assoc]
  constructor
  · intro h
    split at h
    · simp only [List.all_cons, Bool.and_eq_true] at h
      simp [h, mem_letters]
    · cases h
  · simp only [mem_letters_mul, mem_singleton_mul, mem_letters]
    rintro ⟨a, _, ha, ⟨b, _, hb, ⟨c, _, hc, ⟨d, _, hd, ⟨_, ⟨e, _, he, ⟨f, _, hf, ⟨_, ⟨g, _, hg,
      ⟨h, hh, rfl⟩, rfl⟩, rfl⟩, rfl⟩, rfl⟩, rfl⟩, rfl⟩, rfl⟩, rfl⟩, rfl⟩
    simp [ha, hb, hc, hd, he, hf, hg, hh]

end Expression

end RecordSchema
