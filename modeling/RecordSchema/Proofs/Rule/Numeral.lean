import RecordSchema.Proofs.Value.TaggedInt
import RecordSchema.Rule.Check

/-!
# Numeral formats

Three checks on numerals take exactly the texts of three grammars, each inside the next. A float
is found by a shape of which every part may be missing and by a search for a digit before the
exponent; together they take the decimals, which are the texts of doubles other than the words
for infinities and for no number (`numeral_formats`).
-/

namespace RecordSchema

namespace Decimal

-- ---------------------------------------------------------------------------
-- Grammars
-- ---------------------------------------------------------------------------

/-- An optional sign, optionally digits and a point behind them, and one or more digits. -/
inductive IsNumeral : List Char → Prop
  | whole (hsign : IsSign sign negative) (hds : IsDigits ds) : IsNumeral (sign ++ ds)
  | point (hsign : IsSign sign negative) (hwhole : ∀ d ∈ whole, d.isDigit = true)
      (hds : IsDigits ds) : IsNumeral (sign ++ (whole ++ '.' :: ds))

/-- An optional sign, and `0` or digits that start with another one. -/
inductive IsPlainInteger : List Char → Prop
  | zero (hsign : IsSign sign negative) : IsPlainInteger (sign ++ ['0'])
  | nonzero (hsign : IsSign sign negative) (hds : IsDigits (d :: ds)) (hd : d ≠ '0') :
      IsPlainInteger (sign ++ d :: ds)

theorem IsPlainInteger.isInteger (h : IsPlainInteger cs) : ∃ n, IsInteger cs n := by
  cases h with
  | zero hsign =>
    exact ⟨_, .mk hsign ⟨List.cons_ne_nil _ _, List.forall_mem_singleton.mpr (by decide)⟩⟩
  | nonzero hsign hds => exact ⟨_, .mk hsign hds⟩

theorem IsPlainInteger.isNumeral (h : IsPlainInteger cs) : IsNumeral cs := by
  obtain ⟨n, h⟩ := h.isInteger
  obtain ⟨hsign, hds⟩ := h
  exact .whole hsign hds

theorem IsNumeral.isDecimal (h : IsNumeral cs) : ∃ q, IsDecimal cs q := by
  cases h with
  | @whole sign negative ds hsign hds =>
    have h : IsDecimal (sign ++ (ds ++ [])) _ := .mk hsign (.whole hds) .none
    rw [List.append_nil] at h
    exact ⟨_, h⟩
  | @point sign negative whole ds hsign hwhole hds =>
    have hdigits : IsDigits (whole ++ ds) :=
      ⟨List.append_ne_nil_of_right_ne_nil _ hds.1, List.forall_mem_append.mpr ⟨hwhole, hds.2⟩⟩
    have h : IsDecimal (sign ++ (whole ++ '.' :: ds ++ [])) _ := .mk hsign (.point hdigits) .none
    rw [List.append_nil] at h
    exact ⟨_, h⟩

-- ---------------------------------------------------------------------------
-- Characters
-- ---------------------------------------------------------------------------

/-- A digit, or a sign, a point or an exponent mark. -/
def IsNumeralChar (c : Char) : Prop := c.isDigit = true ∨ c ∈ ['+', '-', '.', 'e', 'E']

theorem IsSign.chars (h : IsSign sign negative) : ∀ c ∈ sign, IsNumeralChar c := by
  cases h <;> simp [IsNumeralChar]

theorem IsSign.any_isDigit (h : IsSign sign negative) : sign.any Char.isDigit = false := by
  cases h <;> decide

theorem IsDigits.chars (h : IsDigits ds) : ∀ c ∈ ds, IsNumeralChar c :=
  fun c hc => .inl (h.2 c hc)

theorem IsMantissa.chars (h : IsMantissa m c places) : ∀ c ∈ m, IsNumeralChar c := by
  cases h with
  | whole hds => exact hds.chars
  | point hds =>
    obtain ⟨hwhole, hfraction⟩ := List.forall_mem_append.mp hds.chars
    exact List.forall_mem_append.mpr ⟨hwhole, List.forall_mem_cons.mpr
      ⟨.inr (by decide), hfraction⟩⟩

theorem IsExponent.chars (h : IsExponent e k) : ∀ c ∈ e, IsNumeralChar c := by
  cases h with
  | none => nofun
  | mark hmark h =>
    obtain ⟨hsign, hds⟩ := h
    refine List.forall_mem_cons.mpr ⟨?_, List.forall_mem_append.mpr ⟨hsign.chars, hds.chars⟩⟩
    rcases hmark with rfl | rfl <;> exact .inr (by decide)

theorem IsDecimal.chars (h : IsDecimal cs q) : ∀ c ∈ cs, IsNumeralChar c := by
  obtain ⟨hsign, hm, he⟩ := h
  exact List.forall_mem_append.mpr
    ⟨hsign.chars, List.forall_mem_append.mpr ⟨hm.chars, he.chars⟩⟩

end Decimal

namespace Numeral

open Decimal

-- ---------------------------------------------------------------------------
-- Integers and numerals
-- ---------------------------------------------------------------------------

theorem isInt_iff : isInt cs = true ↔ IsPlainInteger cs := by
  constructor
  · intro h
    obtain ⟨sign, hsign, hcs⟩ := exists_sign cs
    rw [hcs]
    unfold isInt at h
    split at h
    · rename_i hbody
      rw [hbody]
      exact .zero hsign
    · rw [Bool.and_eq_true, isDigits_iff, bne_iff_ne] at h
      obtain ⟨hds, hhead⟩ := h
      obtain ⟨d, ds, hbody⟩ := List.exists_cons_of_ne_nil hds.1
      rw [hbody] at hds hhead ⊢
      exact .nonzero hsign hds fun hd => hhead (congrArg some hd)
  · intro h
    cases h with
    | zero hsign =>
      rw [isInt, splitSign_append hsign (by simp)]
      rfl
    | @nonzero sign negative d ds hsign hds hd =>
      rw [isInt, splitSign_append hsign fun c hc => no_sign_of_isDigit (hds.head_isDigit c hc)]
      split
      · rfl
      · rw [Bool.and_eq_true, isDigits_iff, bne_iff_ne]
        exact ⟨hds, fun h => hd (Option.some.inj h)⟩

theorem isNumeric_iff : isNumeric cs = true ↔ IsNumeral cs := by
  constructor
  · intro h
    obtain ⟨sign, hsign, hcs⟩ := exists_sign cs
    rw [hcs]
    unfold isNumeric at h
    generalize (splitSign cs).2 = body at h ⊢
    dsimp only at h
    split at h
    · rename_i hdrop
      refine .whole hsign ⟨?_, List.dropWhile_eq_nil_iff.mp hdrop⟩
      rintro rfl
      cases h
    · rename_i fraction hdrop
      rw [← List.takeWhile_append_dropWhile (p := Char.isDigit) (l := body), hdrop]
      exact .point hsign (fun _ => List.mem_takeWhile_imp) (isDigits_iff.mp h)
    · cases h
  · intro h
    cases h with
    | @whole sign negative ds hsign hds =>
      rw [isNumeric, splitSign_append hsign fun c hc => no_sign_of_isDigit (hds.head_isDigit c hc)]
      dsimp only
      rw [List.dropWhile_eq_nil_iff.mpr hds.2]
      simpa using hds.1
    | @point sign negative whole ds hsign hwhole hds =>
      have hpoint : ∀ c ∈ ('.' :: ds).head?, c.isDigit = false := by
        rintro _ ⟨⟩
        decide
      have hhead : ∀ c ∈ (whole ++ '.' :: ds).head?, c ≠ '-' ∧ c ≠ '+' := by
        cases whole with
        | nil =>
          rintro _ ⟨⟩
          decide
        | cons d rest =>
          rintro _ ⟨⟩
          exact no_sign_of_isDigit (hwhole d List.mem_cons_self)
      rw [isNumeric, splitSign_append hsign hhead]
      dsimp only
      rw [(takeWhile_digits hwhole hpoint).2]
      exact isDigits_iff.mpr hds

-- ---------------------------------------------------------------------------
-- Floats
-- ---------------------------------------------------------------------------

/-- Digits with at most one point among or around them, where there may be no digit at all. -/
inductive IsDotted : List Char → List Char → Prop
  | whole (hds : ∀ d ∈ ds, d.isDigit = true) : IsDotted ds ds
  | point (hwhole : ∀ d ∈ whole, d.isDigit = true) (hfraction : ∀ d ∈ fraction, d.isDigit = true) :
      IsDotted (whole ++ '.' :: fraction) (whole ++ fraction)

theorem IsDotted.isMantissa (h : IsDotted m ds) (hds : ds ≠ []) :
    ∃ c places, IsMantissa m c places := by
  cases h with
  | whole hdigits => exact ⟨_, _, .whole ⟨hds, hdigits⟩⟩
  | point hwhole hfraction =>
    exact ⟨_, _, .point ⟨hds, List.forall_mem_append.mpr ⟨hwhole, hfraction⟩⟩⟩

theorem exists_isDotted (h : IsMantissa m c places) : ∃ ds, ds ≠ [] ∧ IsDotted m ds := by
  cases h with
  | whole hds => exact ⟨_, hds.1, .whole hds.2⟩
  | point hds =>
    obtain ⟨hwhole, hfraction⟩ := List.forall_mem_append.mp hds.2
    exact ⟨_, hds.1, .point hwhole hfraction⟩

theorem IsDotted.chars (h : IsDotted m ds) : ∀ c ∈ m, c.isDigit = true ∨ c = '.' := by
  cases h with
  | whole hds => exact fun c hc => .inl (hds c hc)
  | point hwhole hfraction =>
    exact List.forall_mem_append.mpr ⟨fun c hc => .inl (hwhole c hc),
      List.forall_mem_cons.mpr ⟨.inr rfl, fun c hc => .inl (hfraction c hc)⟩⟩

theorem any_isDigit_iff {ds : List Char} (hds : ∀ d ∈ ds, d.isDigit = true) :
    ds.any Char.isDigit = true ↔ ds ≠ [] := by
  cases ds with
  | nil => simp
  | cons d rest => simp [hds d List.mem_cons_self]

theorem IsDotted.any_isDigit (h : IsDotted m ds) : m.any Char.isDigit = true ↔ ds ≠ [] := by
  cases h with
  | whole hds => exact any_isDigit_iff hds
  | @point whole fraction hwhole hfraction =>
    have hpoint : (whole ++ '.' :: fraction).any Char.isDigit =
        (whole ++ fraction).any Char.isDigit := by
      rw [List.any_append, List.any_append, List.any_cons, show '.'.isDigit = false by decide,
        Bool.false_or]
    rw [hpoint, any_isDigit_iff (List.forall_mem_append.mpr ⟨hwhole, hfraction⟩)]

theorem isExponentMark_iff : isExponentMark c = true ↔ c = 'e' ∨ c = 'E' := by
  rw [isExponentMark, Bool.or_eq_true, beq_iff_eq, beq_iff_eq]

theorem isExponent_iff : isExponent cs = true ↔ ∃ k, IsExponent cs k := by
  cases cs with
  | nil => exact iff_of_true rfl ⟨0, .none⟩
  | cons mark rest =>
    rw [isExponent, Bool.and_eq_true, isExponentMark_iff, isDigits_iff]
    constructor
    · rintro ⟨hmark, hds⟩
      exact ⟨_, .mark hmark (isInteger_iff.mpr ⟨hds, rfl⟩)⟩
    · rintro ⟨k, _ | ⟨hmark, h⟩⟩
      exact ⟨hmark, (isInteger_iff.mp h).1⟩

/-- Neither the point nor an exponent mark is a sign. -/
theorem no_sign_ahead (hm : IsDotted m ds) (he : IsExponent e k) :
    ∀ c ∈ (m ++ e).head?, c ≠ '-' ∧ c ≠ '+' := by
  intro c hc
  rw [List.head?_append, Option.mem_def, Option.or_eq_some_iff] at hc
  rcases hc with hc | ⟨-, hc⟩
  · rcases hm.chars c (List.mem_of_mem_head? hc) with hdigit | rfl
    · exact no_sign_of_isDigit hdigit
    · decide
  · rcases he.head c hc with rfl | rfl <;> decide

theorem hasFloatShape_iff : hasFloatShape cs = true ↔ ∃ sign negative m ds e k,
    IsSign sign negative ∧ IsDotted m ds ∧ IsExponent e k ∧ cs = sign ++ (m ++ e) := by
  constructor
  · intro h
    obtain ⟨sign, hsign, hcs⟩ := exists_sign cs
    unfold hasFloatShape at h
    generalize (splitSign cs).2 = body at h hcs
    have hbody : body.takeWhile Char.isDigit ++ body.dropWhile Char.isDigit = body :=
      List.takeWhile_append_dropWhile
    have hdigits : ∀ l : List Char, ∀ d ∈ l.takeWhile Char.isDigit, d.isDigit = true :=
      fun _ _ => List.mem_takeWhile_imp
    split at h
    · rename_i rest hdrop
      obtain ⟨k, he⟩ := isExponent_iff.mp h
      refine ⟨sign, _, _, _, _, k, hsign, .point (hdigits body) (hdigits rest), he, ?_⟩
      rw [List.append_assoc, List.cons_append, List.takeWhile_append_dropWhile, ← hdrop, hbody, hcs]
    · obtain ⟨k, he⟩ := isExponent_iff.mp h
      exact ⟨sign, _, _, _, _, k, hsign, .whole (hdigits body), he, by rw [hbody, hcs]⟩
  · rintro ⟨sign, negative, m, ds, e, k, hsign, hm, he, rfl⟩
    rw [hasFloatShape, splitSign_append hsign (no_sign_ahead hm he)]
    cases hm with
    | whole hds =>
      rw [(takeWhile_digits hds he.head_isDigit).2]
      split
      · rcases he.head '.' rfl with h | h <;> cases h
      · exact isExponent_iff.mpr ⟨k, he⟩
    | @point whole fraction hwhole hfraction =>
      have hpoint : ∀ c ∈ ('.' :: (fraction ++ e)).head?, c.isDigit = false := by
        rintro _ ⟨⟩
        decide
      rw [List.append_assoc, List.cons_append, (takeWhile_digits hwhole hpoint).2]
      simp only [(takeWhile_digits hfraction he.head_isDigit).2]
      exact isExponent_iff.mpr ⟨k, he⟩

theorem IsDotted.not_exponentMark (h : IsDotted m ds) : ∀ c ∈ m, isExponentMark c = false := by
  intro c hc
  rw [← Bool.not_eq_true, isExponentMark_iff]
  rintro (rfl | rfl) <;> exact absurd (h.chars _ hc) (by decide)

theorem beforeExponent_eq (hsign : IsSign sign negative) (hm : IsDotted m ds)
    (he : IsExponent e k) : beforeExponent (sign ++ (m ++ e)) = sign ++ m := by
  have hend : e.takeWhile (fun c => !isExponentMark c) = [] := by
    cases he with
    | none => rfl
    | mark hmark => exact List.takeWhile_cons_of_neg (by simp [isExponentMark_iff.mpr hmark])
  have hsign : ∀ c ∈ sign, (!isExponentMark c) = true := by
    cases hsign <;> simp [isExponentMark]
  rw [beforeExponent, List.takeWhile_append_of_pos hsign,
    List.takeWhile_append_of_pos fun c hc => by rw [hm.not_exponentMark c hc]; rfl, hend,
    List.append_nil]

/-- The digit that the search finds is one of the mantissa. -/
theorem isFloat_iff : isFloat cs = true ↔ ∃ q, IsDecimal cs q := by
  rw [isFloat, Bool.and_eq_true, hasFloatShape_iff]
  constructor
  · rintro ⟨⟨sign, negative, m, ds, e, k, hsign, hm, he, rfl⟩, hdigit⟩
    rw [beforeExponent_eq hsign hm he, List.any_append, hsign.any_isDigit, Bool.false_or,
      hm.any_isDigit] at hdigit
    obtain ⟨c, places, hm⟩ := hm.isMantissa hdigit
    exact ⟨_, .mk hsign hm he⟩
  · rintro ⟨q, hsign, hm, he⟩
    obtain ⟨ds, hne, hm⟩ := exists_isDotted hm
    refine ⟨⟨_, _, _, ds, _, _, hsign, hm, he, rfl⟩, ?_⟩
    rw [beforeExponent_eq hsign hm he, List.any_append, hm.any_isDigit.mpr hne, Bool.or_true]

/-- The shape has no need of a digit before the exponent. -/
example : hasFloatShape ['.', 'e', '5'] = true ∧ isFloat ['.', 'e', '5'] = false := by decide

end Numeral

-- ---------------------------------------------------------------------------
-- Checks
-- ---------------------------------------------------------------------------

namespace Check

open Decimal

theorem numeral_formats (s : String) :
    (float.accepts s = true ↔ ∃ q, IsDecimal s.toList q) ∧
    (float.accepts s = true ↔ (Binary64.ofText? s).isSome = true ∧ ¬ IsWord s.toList) ∧
    (numeric.accepts s = true ↔ IsNumeral s.toList) ∧
    (int.accepts s = true ↔ IsPlainInteger s.toList) ∧
    (int.accepts s = true → numeric.accepts s = true) ∧
    (numeric.accepts s = true → float.accepts s = true) ∧
    (int.accepts s = true → (TaggedInt.mk s).isIntegral = true) ∧
    (float.accepts s = true → ∀ c ∈ s.toList, IsNumeralChar c) := by
  have hfloat : float.accepts s = true ↔ ∃ q, IsDecimal s.toList q := Numeral.isFloat_iff
  have hnumeric : numeric.accepts s = true ↔ IsNumeral s.toList := Numeral.isNumeric_iff
  have hint : int.accepts s = true ↔ IsPlainInteger s.toList := Numeral.isInt_iff
  refine ⟨hfloat, ?_, hnumeric, hint, ?_, ?_, ?_, ?_⟩
  · rw [hfloat, Binary64.isSome_ofText?_iff]
    constructor
    · rintro ⟨q, hq⟩
      exact ⟨.inr ⟨q, hq⟩, hq.not_isWord⟩
    · rintro ⟨hword | hq, hnot⟩
      · exact absurd hword hnot
      · exact hq
  · rw [hint, hnumeric]
    exact IsPlainInteger.isNumeral
  · rw [hnumeric, hfloat]
    exact IsNumeral.isDecimal
  · rw [hint, TaggedInt.isIntegral_iff]
    exact IsPlainInteger.isInteger
  · rw [hfloat]
    rintro ⟨q, hq⟩
    exact hq.chars

end Check

end RecordSchema
