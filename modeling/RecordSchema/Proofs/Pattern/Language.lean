import Mathlib.Computability.Language
import RecordSchema.Proofs.Pattern.Matching
import RecordSchema.Proofs.Unicode.CharSet

/-!
# Languages of patterns

A pattern without conditions does not look around, so it means a set of texts: its language, which
is put together as the pattern is. Between the two ends of a text such a pattern matches exactly
the texts of its language (`isMatch_anchored`).
-/

namespace RecordSchema

namespace Pattern

open Computability Unicode Meaning

-- ---------------------------------------------------------------------------
-- Repetition
-- ---------------------------------------------------------------------------

/-- Texts of the language in a row, of which the number lies between two bounds. -/
def countedLanguage (L : Language Char) (least : Nat) (most : Option Nat) : Language Char :=
  {part | ∃ n, least ≤ n ∧ (∀ m ∈ most, n ≤ max m least) ∧ part ∈ L ^ n}

section Counted

variable (L : Language Char)

theorem mem_countedLanguage : part ∈ countedLanguage L least most ↔
    ∃ n, least ≤ n ∧ (∀ m ∈ most, n ≤ max m least) ∧ part ∈ L ^ n := Iff.rfl

@[simp] theorem countedLanguage_exactly (n : Nat) : countedLanguage L n (some n) = L ^ n := by
  ext part
  rw [mem_countedLanguage]
  constructor
  · rintro ⟨m, hleast, hmost, hpart⟩
    have hm : m ≤ n := by simpa using hmost n rfl
    rwa [← Nat.le_antisymm hm hleast]
  · refine fun hpart => ⟨n, Nat.le_refl n, ?_, hpart⟩
    rintro _ ⟨⟩
    exact Nat.le_max_right n n

@[simp] theorem countedLanguage_optional : countedLanguage L 0 (some 1) = 1 + L := by
  ext part
  rw [mem_countedLanguage, Language.mem_add, Language.mem_one]
  constructor
  · rintro ⟨n, -, hmost, hpart⟩
    match n, hmost 1 rfl with
    | 0, _ => exact .inl (by rwa [pow_zero] at hpart)
    | 1, _ => exact .inr (by rwa [pow_one] at hpart)
  · rintro (rfl | hpart)
    · exact ⟨0, Nat.le_refl 0, fun _ _ => Nat.zero_le _, by rw [pow_zero, Language.mem_one]⟩
    · refine ⟨1, Nat.zero_le 1, ?_, by rwa [pow_one]⟩
      rintro _ ⟨⟩
      exact Nat.le_refl 1

@[simp] theorem countedLanguage_any : countedLanguage L 0 none = L∗ := by
  ext part
  rw [Language.kstar_eq_iSup_pow, Language.mem_iSup]
  exact exists_congr fun n => ⟨fun h => h.2.2, fun h => ⟨Nat.zero_le n, nofun, h⟩⟩

@[simp] theorem countedLanguage_some : countedLanguage L 1 none = L * L∗ := by
  ext part
  rw [Language.kstar_eq_iSup_pow, Language.mul_iSup, Language.mem_iSup]
  constructor
  · rintro ⟨n, hleast, -, hpart⟩
    obtain ⟨n, rfl⟩ := Nat.exists_eq_add_of_le' hleast
    exact ⟨n, by rwa [← pow_succ']⟩
  · rintro ⟨n, hpart⟩
    exact ⟨n + 1, Nat.le_add_left 1 n, nofun, by rwa [pow_succ']⟩

end Counted

-- ---------------------------------------------------------------------------
-- Languages
-- ---------------------------------------------------------------------------

/-- The texts of one character that passes. -/
def letters (passes : Char → Bool) : Language Char := {part | ∃ c, passes c = true ∧ part = [c]}

theorem mem_letters : part ∈ letters passes ↔ ∃ c, passes c = true ∧ part = [c] := Iff.rfl

mutual
/-- The texts of a pattern; conditions have none. -/
def language : Pattern → Language Char
  | .empty => 1
  | .char set _ => letters set.contains
  | .look _ => 0
  | .group _ body => body.language
  | .concat parts => languageAll parts
  | .branch choices => languageAny choices
  | .repeated body min max => countedLanguage body.language min max
def languageAll : List Pattern → Language Char
  | [] => 1
  | p :: rest => p.language * languageAll rest
def languageAny : List Pattern → Language Char
  | [] => 0
  | p :: rest => p.language + languageAny rest
end

@[simp] theorem language_group (capturing : Bool) (body : Pattern) :
    (group capturing body).language = body.language := by
  rw [language]

@[simp] theorem language_concat (parts : List Pattern) :
    (concat parts).language = languageAll parts := by
  rw [language]

@[simp] theorem language_branch (choices : List Pattern) :
    (branch choices).language = languageAny choices := by
  rw [language]

@[simp] theorem language_repeated (body : Pattern) (least : Nat) (most : Option Nat) :
    (repeated body least most).language = countedLanguage body.language least most := by
  rw [language]

mutual
/-- There is no condition in the pattern. -/
def isUnconditional : Pattern → Bool
  | .empty => true
  | .char _ _ => true
  | .look _ => false
  | .group _ body => body.isUnconditional
  | .concat parts => areUnconditional parts
  | .branch choices => areUnconditional choices
  | .repeated body _ _ => body.isUnconditional
def areUnconditional : List Pattern → Bool
  | [] => true
  | p :: rest => p.isUnconditional && areUnconditional rest
end

/-- Only the stretch itself decides, and it has to be in the language. -/
def Meaning.Spells (R : Meaning) (L : Language Char) : Prop :=
  ∀ before part after, R before part after ↔ part ∈ L

section Spells

variable {R S : Meaning} {L M : Language Char}

theorem Meaning.spells_nothing : nothing.Spells 1 := fun _ _ _ => Iff.rfl

theorem Meaning.Spells.next (hR : R.Spells L) (hS : S.Spells M) : (next R S).Spells (L * M) := by
  intro before part after
  simp only [Meaning.next, hR _ _ _, hS _ _ _, Language.mem_mul]
  constructor
  · rintro ⟨first, rest, rfl, hfirst, hrest⟩
    exact ⟨first, hfirst, rest, hrest, rfl⟩
  · rintro ⟨first, hfirst, rest, hrest, rfl⟩
    exact ⟨first, rest, rfl, hfirst, hrest⟩

theorem Meaning.Spells.either (hR : R.Spells L) (hS : S.Spells M) :
    (either R S).Spells (L + M) := by
  intro before part after
  rw [Meaning.either, hR, hS, Language.mem_add]

theorem Meaning.Spells.times (h : R.Spells L) (n : Nat) : (R.times n).Spells (L ^ n) := by
  induction n with
  | zero => exact spells_nothing
  | succ n ih =>
    rw [pow_succ']
    exact h.next ih

theorem Meaning.Spells.counted (h : R.Spells L) (least : Nat) (most : Option Nat) :
    (R.counted least most).Spells (countedLanguage L least most) := by
  intro before part after
  simp only [Meaning.counted, h.times _ _ _ _, mem_countedLanguage]

end Spells

mutual
theorem matches_spells : (p : Pattern) → p.isUnconditional = true → p.Matches.Spells p.language
  | .empty, _ => by
    simpa only [Matches, language] using spells_nothing
  | .char set _, _ => by
    intro before part after
    simp only [Matches, language, mem_letters]
  | .look _, h => by
    cases h
  | .group _ body, h => by
    rw [isUnconditional] at h
    simpa only [Matches, language] using matches_spells body h
  | .concat parts, h => by
    rw [isUnconditional] at h
    simpa only [Matches, language] using matchesAll_spells parts h
  | .branch choices, h => by
    rw [isUnconditional] at h
    simpa only [Matches, language] using matchesAny_spells choices h
  | .repeated body min max, h => by
    rw [isUnconditional] at h
    simpa only [Matches, language] using (matches_spells body h).counted min max
theorem matchesAll_spells : (parts : List Pattern) → areUnconditional parts = true →
    (MatchesAll parts).Spells (languageAll parts)
  | [], _ => by
    simpa only [MatchesAll, languageAll] using spells_nothing
  | p :: rest, h => by
    rw [areUnconditional, Bool.and_eq_true] at h
    simpa only [MatchesAll, languageAll] using
      (matches_spells p h.1).next (matchesAll_spells rest h.2)
theorem matchesAny_spells : (choices : List Pattern) → areUnconditional choices = true →
    (MatchesAny choices).Spells (languageAny choices)
  | [], _ => by
    intro before part after
    simp only [MatchesAny, languageAny, Language.notMem_zero]
  | p :: rest, h => by
    rw [areUnconditional, Bool.and_eq_true] at h
    simpa only [MatchesAny, languageAny] using
      (matches_spells p h.1).either (matchesAny_spells rest h.2)
end

-- ---------------------------------------------------------------------------
-- Characters
-- ---------------------------------------------------------------------------

section Letters

variable {passes : Char → Bool}

/-- Texts in a row of one character each are a text of these characters. -/
theorem flatten_letters {parts : List (List Char)}
    (hparts : ∀ part ∈ parts, part ∈ letters passes) :
    parts.flatten.length = parts.length ∧ ∀ c ∈ parts.flatten, passes c = true := by
  induction parts with
  | nil => simp
  | cons part parts ih =>
    obtain ⟨⟨c, hc, rfl⟩, hrest⟩ := List.forall_mem_cons.mp hparts
    obtain ⟨hlength, hall⟩ := ih hrest
    rw [List.flatten_cons, List.singleton_append]
    exact ⟨congrArg Nat.succ hlength, List.forall_mem_cons.mpr ⟨hc, hall⟩⟩

theorem eq_flatten_letters (hpart : ∀ c ∈ part, passes c = true) :
    ∃ parts : List (List Char), part = parts.flatten ∧ parts.length = part.length ∧
      ∀ p ∈ parts, p ∈ letters passes := by
  refine ⟨part.map fun c => [c], ?_, List.length_map _, ?_⟩
  · rw [← List.flatMap_def, List.flatMap_singleton']
  · exact List.forall_mem_map.mpr fun c hc => ⟨c, hpart c hc, rfl⟩

@[simp] theorem mem_letters_pow :
    part ∈ letters passes ^ n ↔ part.length = n ∧ ∀ c ∈ part, passes c = true := by
  rw [Language.mem_pow]
  constructor
  · rintro ⟨parts, rfl, hn, hparts⟩
    obtain ⟨hlength, hall⟩ := flatten_letters hparts
    exact ⟨hlength.trans hn, hall⟩
  · rintro ⟨rfl, hpart⟩
    exact eq_flatten_letters hpart

@[simp] theorem mem_letters_kstar : part ∈ (letters passes)∗ ↔ ∀ c ∈ part, passes c = true := by
  simp [Language.kstar_eq_iSup_pow, Language.mem_iSup]

@[simp] theorem mem_letters_some :
    part ∈ letters passes * (letters passes)∗ ↔ part ≠ [] ∧ ∀ c ∈ part, passes c = true := by
  simp only [Language.mem_mul, mem_letters_kstar, mem_letters]
  constructor
  · rintro ⟨_, ⟨c, hc, rfl⟩, rest, hrest, rfl⟩
    exact ⟨List.cons_ne_nil c rest, List.forall_mem_cons.mpr ⟨hc, hrest⟩⟩
  · rintro ⟨hne, hpart⟩
    obtain ⟨c, rest, rfl⟩ := List.exists_cons_of_ne_nil hne
    obtain ⟨hc, hrest⟩ := List.forall_mem_cons.mp hpart
    exact ⟨[c], ⟨c, hc, rfl⟩, rest, hrest, rfl⟩

end Letters

theorem language_class {set : CharSet} (levels : Nat) (h : ∀ c, set.contains c = passes c) :
    (char set levels).language = letters passes := by
  rw [language, funext h]

@[simp] theorem language_single (c : Char) (levels : Nat) :
    (char (.single c) levels).language = {[c]} := by
  ext part
  rw [language, mem_letters]
  simp only [CharSet.contains_single, exists_eq_left]
  rfl

-- ---------------------------------------------------------------------------
-- What a text begins with
-- ---------------------------------------------------------------------------

section Front

variable {passes : Char → Bool} {L M : Language Char}

/-- What may be left out is there or is not. -/
theorem mem_optional_mul : part ∈ (1 + L) * M ↔ part ∈ M ∨ part ∈ L * M := by
  rw [add_mul, one_mul, Language.mem_add]

theorem mem_letters_mul :
    part ∈ letters passes * L ↔ ∃ c rest, passes c = true ∧ rest ∈ L ∧ part = c :: rest := by
  rw [Language.mem_mul]
  constructor
  · rintro ⟨_, ⟨c, hc, rfl⟩, rest, hrest, rfl⟩
    exact ⟨c, rest, hc, hrest, rfl⟩
  · rintro ⟨c, rest, hc, hrest, rfl⟩
    exact ⟨[c], ⟨c, hc, rfl⟩, rest, hrest, rfl⟩

@[simp] theorem mem_singleton_language {word : List Char} :
    part ∈ ({word} : Language Char) ↔ part = word := Iff.rfl

theorem mem_word_mul {word : List Char} :
    part ∈ ({word} : Language Char) * L ↔ ∃ rest ∈ L, part = word ++ rest := by
  rw [Language.mem_mul]
  constructor
  · rintro ⟨_, rfl, rest, hrest, rfl⟩
    exact ⟨rest, hrest, rfl⟩
  · rintro ⟨rest, hrest, rfl⟩
    exact ⟨word, rfl, rest, hrest, rfl⟩

theorem mem_singleton_mul : part ∈ {[c]} * L ↔ ∃ rest ∈ L, part = c :: rest := mem_word_mul

theorem mem_kstar_mul : part ∈ (letters passes)∗ * L ↔
    ∃ run rest, (∀ c ∈ run, passes c = true) ∧ rest ∈ L ∧ part = run ++ rest := by
  simp only [Language.mem_mul, mem_letters_kstar]
  constructor
  · rintro ⟨run, hrun, rest, hrest, rfl⟩
    exact ⟨run, rest, hrun, hrest, rfl⟩
  · rintro ⟨run, rest, hrun, hrest, rfl⟩
    exact ⟨run, hrun, rest, hrest, rfl⟩

@[simp] theorem nil_not_mem_letters_mul : [] ∉ letters passes * L := by
  simp [mem_letters_mul]

@[simp] theorem cons_mem_letters_mul :
    c :: rest ∈ letters passes * L ↔ passes c = true ∧ rest ∈ L := by
  simp [mem_letters_mul]

@[simp] theorem cons_mem_singleton_mul :
    c :: rest ∈ ({[d]} : Language Char) * L ↔ c = d ∧ rest ∈ L := by
  simp [mem_singleton_mul, and_comm]

end Front

-- ---------------------------------------------------------------------------
-- Words
-- ---------------------------------------------------------------------------

@[simp] theorem languageAll_append (ps qs : List Pattern) :
    languageAll (ps ++ qs) = languageAll ps * languageAll qs := by
  induction ps with
  | nil => rw [List.nil_append, languageAll, one_mul]
  | cons p ps ih => rw [List.cons_append, languageAll, languageAll, ih, mul_assoc]

/-- The characters of a word, one after another. -/
def word (cs : List Char) : List Pattern := cs.map fun c => .char (.single c) 0

@[simp] theorem languageAll_word (cs : List Char) : languageAll (word cs) = {cs} := by
  induction cs with
  | nil => rfl
  | cons c cs ih =>
    ext part
    rw [word, List.map_cons, languageAll, ← word, ih, language_single, mem_singleton_mul,
      mem_singleton_language]
    simp

-- ---------------------------------------------------------------------------
-- Whole texts
-- ---------------------------------------------------------------------------

theorem matchesAll_append {ps qs : List Pattern} : MatchesAll (ps ++ qs) before part after ↔
    next (MatchesAll ps) (MatchesAll qs) before part after := by
  induction ps generalizing before part with
  | nil => rw [List.nil_append, MatchesAll, nothing_next]
  | cons p ps ih =>
    rw [List.cons_append, MatchesAll, MatchesAll, next_assoc]
    simp only [next, ih]

/-- A pattern of whole texts. -/
def anchored (inner : List Pattern) : Pattern :=
  .concat (.look .textStart :: (inner ++ [.look .textEnd]))

theorem isMatch_anchored {inner : List Pattern} (h : areUnconditional inner = true) :
    (anchored inner).isMatch text = true ↔ text ∈ languageAll inner := by
  rw [isMatch_iff]
  simp only [anchored, Matches, MatchesAll, next, matchesAll_append,
    matchesAll_spells inner h _ _ _]
  constructor
  · rintro ⟨before, _, after, rfl, _, _, rfl, ⟨hstart, rfl⟩, part, _, rfl, hpart, _, _, rfl,
      ⟨hend, rfl⟩, rfl⟩
    obtain rfl : before = [] := by simpa [Look.holds] using hstart
    obtain rfl : after = [] := by simpa [Look.holds] using hend
    simpa using hpart
  · intro htext
    refine ⟨[], text, [], by simp, [], text, rfl, ⟨rfl, rfl⟩, text, [], by simp, htext, [], [], rfl,
      ⟨?_, rfl⟩, rfl⟩
    rfl

end Pattern

end RecordSchema
