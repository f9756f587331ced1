import RecordSchema.Proofs.Unicode.CharSet
import RecordSchema.Unicode.Property

/-!
# Letters and numbers in ASCII

Below U+0080 the letters and numbers of every script are those of ASCII
(`contains_alphabetic`, `contains_alphanumeric`). Each table is read once, for the ranges that
begin there.
-/

namespace RecordSchema

namespace Unicode

open CharSet

-- ---------------------------------------------------------------------------
-- The ASCII part of a table
-- ---------------------------------------------------------------------------

namespace Table

/-- The ranges of a table that begin in ASCII. -/
def asciiRanges (text : List Char) : List (Nat × Nat) :=
  ((words text).flatMap wordRanges).filter (·.1 < 0x80)

end Table

theorem reaches_filter (hn : n < 0x80) :
    Reaches (rs.filter (·.1 < 0x80)) n ↔ Reaches rs n := by
  constructor
  · rintro ⟨r, hr, hcovers⟩
    exact ⟨r, (List.mem_filter.mp hr).1, hcovers⟩
  · rintro ⟨r, hr, hcovers⟩
    exact ⟨r, List.mem_filter.mpr ⟨hr, decide_eq_true (Nat.lt_of_le_of_lt hcovers.1 hn)⟩, hcovers⟩

section Tables

variable {n : Nat} (hn : n < 0x80)
include hn

theorem holds_table {text : List Char} (htext : Table.asciiRanges text = rs) :
    (CharSet.ofTable (String.ofList text)).Holds n ↔ Reaches rs n := by
  rw [CharSet.holds_ofTable, ← htext, Table.asciiRanges, reaches_filter hn]

theorem not_holds_table {text : List Char} (htext : Table.asciiRanges text = []) :
    ¬ (CharSet.ofTable (String.ofList text)).Holds n := by
  rw [holds_table hn htext]
  exact not_reaches_nil

-- A table is as deep a term as it has characters, and the longest has about 4900.
set_option maxRecDepth 20000

theorem holds_uppercaseLetter : uppercaseLetter.Holds n ↔ Reaches [(0x41, 0x5A)] n := by
  apply holds_table hn
  decide +kernel

theorem holds_lowercaseLetter : lowercaseLetter.Holds n ↔ Reaches [(0x61, 0x7A)] n := by
  apply holds_table hn
  decide +kernel

theorem holds_decimalNumber : decimalNumber.Holds n ↔ Reaches [(0x30, 0x39)] n := by
  apply holds_table hn
  decide +kernel

theorem not_holds_titlecaseLetter : ¬ titlecaseLetter.Holds n := by
  apply not_holds_table hn
  decide +kernel

theorem not_holds_modifierLetter : ¬ modifierLetter.Holds n := by
  apply not_holds_table hn
  decide +kernel

theorem not_holds_otherLetter : ¬ otherLetter.Holds n := by
  apply not_holds_table hn
  decide +kernel

theorem not_holds_letterNumber : ¬ letterNumber.Holds n := by
  apply not_holds_table hn
  decide +kernel

theorem not_holds_otherNumber : ¬ otherNumber.Holds n := by
  apply not_holds_table hn
  decide +kernel

-- ---------------------------------------------------------------------------
-- Groups of tables
-- ---------------------------------------------------------------------------

theorem holds_letter : letter.Holds n ↔ Reaches [(0x41, 0x5A), (0x61, 0x7A)] n := by
  simp only [letter, holds_unions_cons, not_holds_unions_nil, holds_uppercaseLetter hn,
    holds_lowercaseLetter hn, not_holds_titlecaseLetter hn, not_holds_modifierLetter hn,
    not_holds_otherLetter hn, reaches_cons, not_reaches_nil, or_false]

theorem holds_number : number.Holds n ↔ Reaches [(0x30, 0x39)] n := by
  simp only [number, holds_unions_cons, not_holds_unions_nil, holds_decimalNumber hn,
    not_holds_letterNumber hn, not_holds_otherNumber hn, or_false]

theorem holds_alphabetic : alphabetic.Holds n ↔ Reaches [(0x41, 0x5A), (0x61, 0x7A)] n := by
  simp only [alphabetic, holds_unions_cons, not_holds_unions_nil, holds_letter hn,
    not_holds_letterNumber hn, or_false, false_or]
  -- What is left beside the letters is the table of marks that count as letters.
  apply or_iff_left
  apply not_holds_table hn
  decide +kernel

theorem holds_alphanumeric :
    alphanumeric.Holds n ↔ Reaches ([(0x41, 0x5A), (0x61, 0x7A)] ++ [(0x30, 0x39)]) n := by
  rw [alphanumeric, holds_union, holds_alphabetic hn, holds_number hn, reaches_append]

end Tables

-- ---------------------------------------------------------------------------
-- ASCII characters
-- ---------------------------------------------------------------------------

theorem isUpper_iff_covers {c : Char} : c.isUpper = true ↔ Covers (0x41, 0x5A) c.toNat :=
  decide_eq_true_iff

theorem isLower_iff_covers {c : Char} : c.isLower = true ↔ Covers (0x61, 0x7A) c.toNat :=
  Bool.and_eq_true_iff.trans (and_congr decide_eq_true_iff decide_eq_true_iff)

theorem isAlpha_iff_reaches {c : Char} :
    c.isAlpha = true ↔ Reaches [(0x41, 0x5A), (0x61, 0x7A)] c.toNat := by
  rw [reaches_cons, reaches_cons, or_iff_left not_reaches_nil, ← isUpper_iff_covers,
    ← isLower_iff_covers]
  exact Bool.or_eq_true_iff

theorem isDigit_iff_reaches {c : Char} : c.isDigit = true ↔ Reaches [(0x30, 0x39)] c.toNat := by
  rw [Char.isDigit_iff_toNat, reaches_cons, or_iff_left not_reaches_nil]
  rfl

theorem contains_alphabetic {c : Char} (hc : Text.isAscii c = true) :
    alphabetic.contains c = c.isAlpha := by
  rw [Bool.eq_iff_iff, isAlpha_iff_reaches, ← holds_alphabetic (of_decide_eq_true hc)]
  exact (CharSet.ordered_ofRanges _).containsCode_iff

theorem contains_alphanumeric {c : Char} (hc : Text.isAscii c = true) :
    alphanumeric.contains c = c.isAlphanum := by
  rw [Bool.eq_iff_iff, Char.isAlphanum, Bool.or_eq_true, isAlpha_iff_reaches, isDigit_iff_reaches,
    ← reaches_append, ← holds_alphanumeric (of_decide_eq_true hc)]
  exact (CharSet.ordered_ofRanges _).containsCode_iff

end Unicode

end RecordSchema
