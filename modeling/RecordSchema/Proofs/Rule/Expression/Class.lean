import Mathlib
import RecordSchema.Proofs.Pattern.Language
import RecordSchema.Proofs.Unicode.Letters
import RecordSchema.Rule.Check

/-!
# Checks as patterns

Most formats of the library are known as patterns. A check reads its texts without one; that it
takes the same texts is said of the pattern's own text, as it compiles (`Describes`).
-/

namespace RecordSchema

open Computability Unicode Pattern Notation

/-- The text compiles to a pattern that matches exactly the texts that pass. -/
def Pattern.Describes (source : String) (passes : List Char → Bool) : Prop :=
  ∃ p, compile? source.toList = some p ∧ ∀ cs, p.isMatch cs = passes cs

/-- What the pattern of one text answers about another; nothing when the text is no pattern. -/
def Pattern.answer? (source s : String) : Option Bool :=
  (compile? source.toList).map fun p => p.isMatch s.toList

theorem Pattern.Describes.answer? {source : String} (h : Describes source passes) (s : String) :
    answer? source s = some (passes s.toList) := by
  obtain ⟨p, hp, hmatch⟩ := h
  rw [Pattern.answer?, hp, Option.map_some, hmatch]

theorem Pattern.describes_of_language {source : String} {inner : List Pattern}
    (hcompile : compile? source.toList = some (anchored inner))
    (hinner : areUnconditional inner = true)
    (hpasses : ∀ cs, passes cs = true ↔ cs ∈ languageAll inner) : Describes source passes := by
  refine ⟨_, hcompile, fun cs => ?_⟩
  rw [Bool.eq_iff_iff, isMatch_anchored hinner, hpasses]

namespace Expression

-- ---------------------------------------------------------------------------
-- Classes
-- ---------------------------------------------------------------------------

/-- `[0-9]` -/
def digit : Pattern := .char (.range '0' '9') 1

/-- `[0-9A-Fa-f]` -/
def hexDigit : Pattern := .char (.unions [.range '0' '9', .range 'A' 'F', .range 'a' 'f']) 2

/-- `[+-]` -/
def sign : Pattern := .char (.unions [.single '+', .single '-']) 2

/-- `[A-Za-z0-9+/]` -/
def base64Letter : Pattern :=
  .char (.unions [.range 'A' 'Z', .range 'a' 'z', .range '0' '9', .single '+', .single '/']) 2

def optional (p : Pattern) : Pattern := .repeated p 0 (some 1)

def exactly (n : Nat) (p : Pattern) : Pattern := .repeated p n (some n)

theorem contains_range {low high c : Char} :
    (CharSet.range low high).contains c = (decide (low ≤ c) && decide (c ≤ high)) := by
  rw [Bool.eq_iff_iff, CharSet.contains_range, Bool.and_eq_true, decide_eq_true_iff,
    decide_eq_true_iff]

@[simp] theorem language_digit : digit.language = letters Char.isDigit :=
  language_class 1 fun _ => contains_range

@[simp] theorem language_hexDigit : hexDigit.language = letters Text.isHexDigit := by
  refine language_class 2 fun c => ?_
  rw [Bool.eq_iff_iff, CharSet.contains_unions]
  simp [CharSet.holds_range, Text.isHexDigit, or_comm, or_left_comm]

@[simp] theorem language_sign : sign.language = letters fun c => c == '+' || c == '-' := by
  refine language_class 2 fun c => ?_
  rw [Bool.eq_iff_iff, CharSet.contains_unions]
  simp [CharSet.holds_single]

@[simp] theorem language_base64Letter : base64Letter.language = letters isBase64Char := by
  refine language_class 2 fun c => ?_
  rw [Bool.eq_iff_iff, CharSet.contains_unions, isBase64Char, Char.isAlphanum]
  simp [CharSet.holds_single, CharSet.holds_range, isAlpha_iff_reaches, isDigit_iff_reaches,
    CharSet.reaches_cons, CharSet.not_reaches_nil, or_assoc]
  rfl

@[simp] theorem language_optional (p : Pattern) : (optional p).language = 1 + p.language := by
  rw [optional, language_repeated, countedLanguage_optional]

@[simp] theorem language_exactly (n : Nat) (p : Pattern) :
    (exactly n p).language = p.language ^ n := by
  rw [exactly, language_repeated, countedLanguage_exactly]

end Expression

end RecordSchema
