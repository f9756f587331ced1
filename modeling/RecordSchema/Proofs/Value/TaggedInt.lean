import RecordSchema.Proofs.Number.Numeral
import RecordSchema.Value

/-!
# Tagged integers denote integers exactly

Two readers look at the text of a tagged integer: a scan for digits of any width, and a bounded
one that stays within a word at each digit. The bounded reader only moves away from zero, so a
step that leaves the word is never made good by the digits behind it, and it gives up exactly on
integers beyond the word: `toInt64?_eq_some_iff`.
-/

namespace RecordSchema

open Decimal (IsDigits IsInteger IsSign signed)

theorem IsInt64.int64Or (h : IsInt64 n) : Int64Or n := ⟨h.1, Int.lt_trans h.2 (by decide)⟩

/-- Nearer to zero on the same side is still within the word. -/
theorem IsInt64.signed_mono {a b : Nat} (h : IsInt64 (signed negative (b : Int))) (hle : a ≤ b) :
    IsInt64 (signed negative (a : Int)) := by
  obtain ⟨hlow, hhigh⟩ := h
  cases negative with
  | false =>
    rw [Decimal.signed_false] at hlow hhigh ⊢
    exact ⟨by omega, by omega⟩
  | true =>
    rw [Decimal.signed_true] at hlow hhigh ⊢
    exact ⟨by omega, by omega⟩

namespace TaggedInt

-- ---------------------------------------------------------------------------
-- Digits of any width
-- ---------------------------------------------------------------------------

theorem isIntegral_iff {x : TaggedInt} :
    x.isIntegral = true ↔ ∃ n, IsInteger x.raw.toList n := by
  simp only [isIntegral, Decimal.isDigits_iff, Decimal.isInteger_iff, exists_and_left,
    exists_eq, and_true]

theorem value?_eq_some_iff {x : TaggedInt} : x.value? = some n ↔ IsInteger x.raw.toList n := by
  simp only [value?, Option.ite_none_right_eq_some, Decimal.isDigits_iff, Decimal.isInteger_iff,
    Decimal.digitsValue_eq, Option.some.injEq, signed, eq_comm (a := n)]

-- ---------------------------------------------------------------------------
-- Digits within a word
-- ---------------------------------------------------------------------------

theorem le_ofDigitChars (a : Nat) (ds : List Char) : a ≤ Nat.ofDigitChars 10 ds a := by
  induction ds generalizing a with
  | nil => exact Nat.le_refl a
  | cons d ds ih =>
    rw [Nat.ofDigitChars_cons]
    exact Nat.le_trans (by omega) (ih _)

/-- One more digit: the product by ten is within the word when the sum is. -/
theorem appendDigits?_cons {a : Nat} :
    appendDigits? negative (signed negative (a : Int)) (d :: ds) = some n ↔
      d.isDigit = true ∧ IsInt64 (signed negative ((10 * a + (d.toNat - '0'.toNat) : Nat) : Int)) ∧
      appendDigits? negative (signed negative ((10 * a + (d.toNat - '0'.toNat) : Nat) : Int)) ds =
        some n := by
  have hdigit : Decimal.digitsValue [d] = d.toNat - '0'.toNat := by
    rw [Decimal.digitsValue, List.foldl_cons, List.foldl_nil, Nat.mul_zero, Nat.zero_add]
  rw [appendDigits?, hdigit]
  generalize d.toNat - '0'.toNat = digit
  have hproduct : 10 * signed negative (a : Int) = signed negative ((10 * a : Nat) : Int) := by
    cases negative <;> simp
  have hsum : (if negative then signed negative ((10 * a : Nat) : Int) - digit
      else signed negative ((10 * a : Nat) : Int) + digit) =
      signed negative ((10 * a + digit : Nat) : Int) := by
    cases negative with
    | false => simp
    | true =>
      simp only [Decimal.signed_true, if_true]
      omega
  rw [hproduct, hsum, Option.ite_none_right_eq_some, and_assoc, and_assoc]
  refine and_congr_right fun _ => ⟨And.right, fun h => ⟨?_, h⟩⟩
  exact h.1.signed_mono (Nat.le_add_right _ _)

/-- The invariant of the reader is the value that it has read. -/
theorem appendDigits?_eq_some_iff {a : Nat} (ha : IsInt64 (signed negative (a : Int))) :
    appendDigits? negative (signed negative (a : Int)) ds = some n ↔
      (∀ d ∈ ds, d.isDigit = true) ∧
        n = signed negative (Nat.ofDigitChars 10 ds a : Int) ∧ IsInt64 n := by
  induction ds generalizing a with
  | nil =>
    rw [appendDigits?, Option.some.injEq, Nat.ofDigitChars_nil]
    constructor
    · rintro rfl
      exact ⟨nofun, rfl, ha⟩
    · rintro ⟨-, rfl, -⟩
      rfl
  | cons d ds ih =>
    rw [appendDigits?_cons, Nat.ofDigitChars_cons, List.forall_mem_cons]
    constructor
    · rintro ⟨hd, hnext, h⟩
      obtain ⟨hds, hn⟩ := (ih hnext).mp h
      exact ⟨⟨hd, hds⟩, hn⟩
    · rintro ⟨⟨hd, hds⟩, rfl, hn⟩
      -- What is read at the end is further from zero than what is read here.
      have hnext := hn.signed_mono (le_ofDigitChars _ ds)
      exact ⟨hd, hnext, (ih hnext).mpr ⟨hds, rfl, hn⟩⟩

theorem toInt64?_eq_some_iff {x : TaggedInt} :
    x.toInt64? = some n ↔ IsInteger x.raw.toList n ∧ IsInt64 n := by
  have hzero : ∀ negative, signed negative ((0 : Nat) : Int) = 0 := by decide
  rw [toInt64?, Decimal.isInteger_iff]
  split
  · rename_i hsplit
    rw [hsplit]
    exact iff_of_false nofun fun h => h.1.1.1 rfl
  · rename_i negative d ds hsplit
    rw [hsplit, ← hzero negative, appendDigits?_eq_some_iff (by rw [hzero]; decide), ← and_assoc]
    have hne : d :: ds ≠ [] := List.cons_ne_nil d ds
    simp only [IsDigits, hne, ne_eq, not_false_eq_true, true_and]

-- ---------------------------------------------------------------------------
-- Printing
-- ---------------------------------------------------------------------------

theorem isInteger_ofInt (n : Int) : IsInteger (ofInt n).raw.toList n := by
  have hds : IsDigits (Nat.toDigits 10 n.natAbs) :=
    ⟨Nat.toDigits_ne_nil, fun _ hd => Nat.isDigit_of_mem_toDigits (by decide) (by decide) hd⟩
  rw [ofInt, String.toList_append, Nat.toList_repr]
  split
  · have h : IsInteger ("-".toList ++ Nat.toDigits 10 n.natAbs) _ := .mk .minus hds
    rwa [Nat.ofDigitChars_ten_toDigits, signed, if_pos rfl,
      show -(n.natAbs : Int) = n by omega] at h
  · have h : IsInteger ("".toList ++ Nat.toDigits 10 n.natAbs) _ := .mk .none hds
    rwa [Nat.ofDigitChars_ten_toDigits, signed, if_neg (by decide),
      show (n.natAbs : Int) = n by omega] at h

-- ---------------------------------------------------------------------------
-- Lowering
-- ---------------------------------------------------------------------------

theorem toValue_of_isInt64 {x : TaggedInt} (hx : IsInteger x.raw.toList n) (hn : IsInt64 n) :
    x.toValue = .number (.integer n hn.int64Or) := by
  rw [toValue, lower, toInt64?_eq_some_iff.mpr ⟨hx, hn⟩, Option.bind_some, Number.ofInt?,
    dif_pos hn.int64Or]
  rfl

theorem toInt64?_eq_none {x : TaggedInt} (h : ∀ n, IsInteger x.raw.toList n → ¬ IsInt64 n) :
    x.toInt64? = none :=
  Option.eq_none_iff_forall_ne_some.mpr fun n hn =>
    h n (toInt64?_eq_some_iff.mp hn).1 (toInt64?_eq_some_iff.mp hn).2

theorem toValue_of_toInt64?_eq_none {x : TaggedInt} (h : x.toInt64? = none) :
    x.toValue = .string x.raw := by
  rw [toValue, lower, h, Option.bind_none]
  rfl

/-- The text of a tagged integer denotes one integer or none. Within a word the bounded reader
gives that integer, and beyond it gives nothing and the text is kept as it is; an integer of a
word is printed as a text that denotes it. -/
theorem denotes_exactly (x : TaggedInt) :
    (x.isIntegral = true ↔ ∃! n, IsInteger x.raw.toList n) ∧
    (∀ n, x.toInt64? = some n ↔
      x.isIntegral = true ∧ IsInteger x.raw.toList n ∧ IsInt64 n) ∧
    (∀ n, IsInteger x.raw.toList n → ¬ IsInt64 n →
      x.toInt64? = none ∧ x.toValue = .string x.raw) ∧
    (∀ n (hn : IsInt64 n), (ofInt n).isIntegral = true ∧ (ofInt n).toInt64? = some n ∧
      (ofInt n).toValue = .number (.integer n hn.int64Or)) := by
  refine ⟨?_, fun n => ?_, fun n hx hn => ?_, fun n hn => ?_⟩
  · rw [isIntegral_iff]
    exact ⟨fun ⟨n, hn⟩ => ⟨n, hn, fun _ hm => hm.unique hn⟩, ExistsUnique.exists⟩
  · rw [toInt64?_eq_some_iff, isIntegral_iff]
    exact ⟨fun h => ⟨⟨n, h.1⟩, h⟩, And.right⟩
  · have hnone : x.toInt64? = none := toInt64?_eq_none fun m hm => hx.unique hm ▸ hn
    exact ⟨hnone, toValue_of_toInt64?_eq_none hnone⟩
  · exact ⟨isIntegral_iff.mpr ⟨n, isInteger_ofInt n⟩,
      toInt64?_eq_some_iff.mpr ⟨isInteger_ofInt n, hn⟩,
      toValue_of_isInt64 (isInteger_ofInt n) hn⟩

/-- One beyond the word on the one side, and the end of the word on the other. -/
theorem denotes_exactly_bounds :
    (⟨"9223372036854775808"⟩ : TaggedInt).toValue = .string "9223372036854775808" ∧
    (ofInt (-9223372036854775808)).toInt64? = some (-9223372036854775808) :=
  ⟨((denotes_exactly ⟨"9223372036854775808"⟩).2.2.1 9223372036854775808
      (value?_eq_some_iff.mp (by decide +kernel)) (by decide)).2,
    ((denotes_exactly ⟨"9223372036854775808"⟩).2.2.2 (-9223372036854775808) (by decide)).2.1⟩

end TaggedInt

end RecordSchema
