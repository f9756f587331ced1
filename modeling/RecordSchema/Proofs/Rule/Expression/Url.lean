import RecordSchema.Proofs.Rule.Expression.Class

/-!
# Web addresses as a pattern

The pattern asks for a scheme and for what its host may begin with.
-/

namespace RecordSchema

open Computability Unicode Pattern

namespace Expression

def blankRanges : List (Nat × Nat) :=
  [(9, 13), (0x20, 0x20), (0x85, 0x85), (0xA0, 0xA0), (0x1680, 0x1680), (0x2000, 0x200A),
    (0x2028, 0x2029), (0x202F, 0x202F), (0x205F, 0x205F), (0x3000, 0x3000)]

theorem whiteSpace_eq : whiteSpace = .ofRanges blankRanges :=
  congrArg CharSet.ofRanges (show (Table.words _).flatMap Table.wordRanges = _ by cbv)

theorem holds_whiteSpace : whiteSpace.Holds (Char.toNat c) ↔ Text.isBlank c = true := by
  rw [whiteSpace_eq, CharSet.holds_ofRanges]
  simp only [blankRanges, CharSet.reaches_cons, CharSet.not_reaches_nil, CharSet.Covers,
    Text.isBlank, Bool.or_eq_true, Bool.and_eq_true, decide_eq_true_eq, beq_iff_eq, or_false]
  omega

def isSolidExcept (excluded : List Char) (c : Char) : Bool :=
  !(Text.isBlank c || excluded.contains c)

/-- All but white space and the given characters. -/
def solidExcept (excluded : List Char) : CharSet :=
  (CharSet.unions (whiteSpace :: excluded.map .single)).complement

theorem contains_solidExcept (excluded : List Char) (c : Char) :
    (solidExcept excluded).contains c = isSolidExcept excluded c := by
  have hspace : whiteSpace.Normal := by
    rw [whiteSpace_eq]
    exact CharSet.normal_ofRanges (by simp [CharSet.Inhabited, blankRanges])
  have hnormal : (CharSet.unions (whiteSpace :: excluded.map .single)).Normal :=
    CharSet.normal_unions (List.forall_mem_cons.mpr
      ⟨hspace, List.forall_mem_map.mpr fun d _ => CharSet.normal_range (Char.le_refl d)⟩)
  rw [solidExcept, CharSet.contains_complement hnormal, isSolidExcept, Bool.not_inj_iff,
    Bool.eq_iff_iff, CharSet.contains_unions, Bool.or_eq_true, List.contains_iff_mem]
  simp [holds_whiteSpace, CharSet.holds_single]

theorem contains_inLine (c : Char) :
    (CharSet.single '\n').complement.contains c = (c != '\n') := by
  have hnormal : (CharSet.single '\n').Normal := CharSet.normal_range (Char.le_refl _)
  rw [CharSet.contains_complement hnormal, bne, Bool.not_inj_iff, Bool.eq_iff_iff,
    CharSet.contains_single, beq_iff_eq]

def urlText : String := "^(https?|ftp)://[^\\s/$.?#].[^\\s]*$"

/-- The patterns of a scheme and of what comes behind it. -/
def url : List Pattern :=
  .group true (.branch
      [.concat (word ['h', 't', 't', 'p'] ++ [optional (.char (.single 's') 0)]),
        .concat (word ['f', 't', 'p'])]) ::
    (word [':', '/', '/'] ++ [.char (solidExcept ['/', '$', '.', '?', '#']) 2,
      .char (CharSet.single '\n').complement 0, .repeated (.char (solidExcept []) 1) 0 none])

/-- No scheme with its slashes begins with another one. -/
theorem afterScheme?_eq_some_iff : Url.afterScheme? cs = some rest ↔
    ∃ scheme ∈ ["http://", "https://", "ftp://"], cs = scheme.toList ++ rest := by
  constructor
  · intro h
    obtain ⟨scheme, hscheme, h⟩ := List.exists_of_findSome?_eq_some h
    obtain ⟨hbegins, hrest⟩ := Option.ite_none_right_eq_some.mp h
    obtain ⟨after, rfl⟩ := List.isPrefixOf_iff_prefix.mp hbegins
    rw [List.drop_left' String.length_toList, Option.some.injEq] at hrest
    exact ⟨scheme, hscheme, congrArg _ hrest⟩
  · rintro ⟨scheme, hscheme, rfl⟩
    simp only [List.mem_cons, List.not_mem_nil, or_false] at hscheme
    rcases hscheme with rfl | rfl | rfl <;> rfl

def urlShape (cs : List Char) : Bool := (Url.afterScheme? cs).any Url.hasPlainShape

theorem describes_url : Describes urlText urlShape := by
  refine describes_of_language (show _ = some (anchored url) by cbv) rfl fun cs => ?_
  have hlanguage : languageAll url = ({['h', 't', 't', 'p']} * (1 + {['s']}) + {['f', 't', 'p']}) *
      ({[':', '/', '/']} *
        (letters (isSolidExcept ['/', '$', '.', '?', '#']) *
          (letters (· != '\n') * (letters (isSolidExcept []))∗))) := by
    simp only [url, languageAll, languageAny, language_group, language_branch, language_concat,
      language_repeated, languageAll_append, languageAll_word, language_optional, language_single,
      countedLanguage_any, mul_one, add_zero, language_class _ (contains_solidExcept _),
      language_class _ contains_inLine]
  have hshape {rest : List Char} : Url.hasPlainShape rest = true ↔ rest ∈
      letters (isSolidExcept ['/', '$', '.', '?', '#']) *
        (letters (· != '\n') * (letters (isSolidExcept []))∗) := by
    rcases rest with _ | ⟨first, _ | ⟨second, rest⟩⟩
    · simp [Url.hasPlainShape]
    · simp [Url.hasPlainShape]
    · simp [Url.hasPlainShape, isSolidExcept, and_assoc]
  rw [hlanguage, urlShape, Option.any_eq_true, mul_add, mul_one, add_mul, add_mul,
    Language.mem_add, Language.mem_add, mul_assoc]
  simp only [afterScheme?_eq_some_iff, hshape, mem_word_mul]
  constructor
  · rintro ⟨rest, ⟨scheme, hscheme, rfl⟩, hrest⟩
    simp only [List.mem_cons, List.not_mem_nil, or_false] at hscheme
    rcases hscheme with rfl | rfl | rfl
    · exact .inl (.inl ⟨_, ⟨rest, hrest, rfl⟩, rfl⟩)
    · exact .inl (.inr ⟨_, ⟨_, ⟨rest, hrest, rfl⟩, rfl⟩, rfl⟩)
    · exact .inr ⟨_, ⟨rest, hrest, rfl⟩, rfl⟩
  · rintro ((⟨_, ⟨rest, hrest, rfl⟩, rfl⟩ | ⟨_, ⟨_, ⟨rest, hrest, rfl⟩, rfl⟩, rfl⟩) |
      ⟨_, ⟨rest, hrest, rfl⟩, rfl⟩)
    · exact ⟨rest, ⟨"http://", by simp, rfl⟩, hrest⟩
    · exact ⟨rest, ⟨"https://", by simp, rfl⟩, hrest⟩
    · exact ⟨rest, ⟨"ftp://", by simp, rfl⟩, hrest⟩

end Expression

end RecordSchema
