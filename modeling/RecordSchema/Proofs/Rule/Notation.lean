import RecordSchema.Proofs.Rule.Version
import RecordSchema.Proofs.Unicode.Letters

/-!
# Fixed notations

Colours, hexadecimal numbers, hardware addresses and base64, each as a set of texts that is written
down without the check that reads it; and where a UUID has its digits.
-/

namespace RecordSchema

namespace Notation

open Text

/-- The ASCII hexadecimal digits. -/
def hexDigits : List Char :=
  ['0', '1', '2', '3', '4', '5', '6', '7', '8', '9', 'A', 'B', 'C', 'D', 'E', 'F', 'a', 'b', 'c',
   'd', 'e', 'f']

/-- The letters of base64, without the padding. -/
def base64Alphabet : List Char :=
  ['+', '/', '0', '1', '2', '3', '4', '5', '6', '7', '8', '9', 'A', 'B', 'C', 'D', 'E', 'F', 'G',
   'H', 'I', 'J', 'K', 'L', 'M', 'N', 'O', 'P', 'Q', 'R', 'S', 'T', 'U', 'V', 'W', 'X', 'Y', 'Z',
   'a', 'b', 'c', 'd', 'e', 'f', 'g', 'h', 'i', 'j', 'k', 'l', 'm', 'n', 'o', 'p', 'q', 'r', 's',
   't', 'u', 'v', 'w', 'x', 'y', 'z']

/-- An optional `#`, and 3, 4, 6 or 8 hexadecimal digits. -/
inductive IsHexColor : List Char → Prop
  | plain (hlength : ds.length ∈ [3, 4, 6, 8]) (hds : ds ⊆ hexDigits) : IsHexColor ds
  | hash (hlength : ds.length ∈ [3, 4, 6, 8]) (hds : ds ⊆ hexDigits) : IsHexColor ('#' :: ds)

/-- Hexadecimal digits, one or more, optionally behind `0x` or `0h` in either case. -/
inductive IsHexadecimal : List Char → Prop
  | plain (hne : ds ≠ []) (hds : ds ⊆ hexDigits) : IsHexadecimal ds
  | marked (hmark : mark ∈ ['x', 'X', 'h', 'H']) (hne : ds ≠ []) (hds : ds ⊆ hexDigits) :
      IsHexadecimal ('0' :: mark :: ds)

/-- Six pairs of hexadecimal digits, joined by one and the same mark. -/
def IsMacAddress (cs : List Char) : Prop :=
  ∃ mark ∈ [':', '-'], ∃ pairs : List (List Char), pairs.length = 6 ∧
    (∀ pair ∈ pairs, pair.length = 2 ∧ pair ⊆ hexDigits) ∧ cs = [mark].intercalate pairs

/-- Letters of the alphabet, and at most two signs of padding behind them. -/
def IsPadded (cs : List Char) : Prop :=
  ∃ body pad, pad ≤ 2 ∧ body ⊆ base64Alphabet ∧ cs = body ++ List.replicate pad '='

structure IsBase64 (cs : List Char) : Prop where
  nonempty : cs ≠ []
  quads : 4 ∣ cs.length
  padded : IsPadded cs

-- ---------------------------------------------------------------------------
-- Characters
-- ---------------------------------------------------------------------------

theorem isAscii_of_le {c d : Char} (hd : isAscii d = true) (h : c ≤ d) : isAscii c = true :=
  decide_eq_true (Nat.lt_of_le_of_lt h (of_decide_eq_true hd))

theorem isAscii_of_isHexDigit (h : isHexDigit c = true) : isAscii c = true := by
  simp only [isHexDigit, Bool.or_eq_true, Bool.and_eq_true, decide_eq_true_eq] at h
  obtain (⟨-, h⟩ | ⟨-, h⟩) | ⟨-, h⟩ := h
  · exact isAscii_of_le (by decide) h
  · exact isAscii_of_le (by decide) h
  · exact isAscii_of_le (by decide) h

theorem isAscii_of_isBase64Char (h : isBase64Char c = true) : isAscii c = true := by
  rw [isBase64Char, Bool.or_eq_true, Bool.or_eq_true, beq_iff_eq, beq_iff_eq, Char.isAlphanum,
    Bool.or_eq_true, Unicode.isAlpha_iff_reaches, Unicode.isDigit_iff_reaches,
    ← Unicode.CharSet.reaches_append] at h
  obtain (⟨r, hr, -, hc⟩ | rfl) | rfl := h
  · have hranges : ∀ r ∈ [(0x41, 0x5A), (0x61, 0x7A)] ++ [(0x30, 0x39)], r.2 < 0x80 := by decide
    exact decide_eq_true (Nat.lt_of_le_of_lt hc (hranges r hr))
  · decide
  · decide

/-- A class of ASCII characters is listed by going through the 128 code points. -/
theorem class_iff_mem {p : Char → Bool} (hascii : ∀ c, p c = true → isAscii c = true)
    (hlisted : ((List.range 0x80).map Char.ofNat).filter p = listed) : p c = true ↔ c ∈ listed := by
  rw [← hlisted, List.mem_filter]
  refine iff_and_self.mpr fun hc => List.mem_map.mpr ⟨c.toNat, ?_, Char.ofNat_toNat c⟩
  exact List.mem_range.mpr (of_decide_eq_true (hascii c hc))

theorem isHexDigit_iff : isHexDigit c = true ↔ c ∈ hexDigits :=
  class_iff_mem (fun _ => isAscii_of_isHexDigit) (by decide)

theorem isBase64Char_iff : isBase64Char c = true ↔ c ∈ base64Alphabet :=
  class_iff_mem (fun _ => isAscii_of_isBase64Char) (by decide)

theorem all_isHexDigit_iff : ds.all isHexDigit = true ↔ ds ⊆ hexDigits := by
  simp only [List.all_eq_true, isHexDigit_iff, List.subset_def]

-- ---------------------------------------------------------------------------
-- Colours and hexadecimal numbers
-- ---------------------------------------------------------------------------

theorem isHexColor_iff : isHexColor cs = true ↔ IsHexColor cs := by
  have hdigits : ∀ {ds : List Char},
      ([3, 4, 6, 8].contains ds.length && ds.all isHexDigit) = true ↔
        ds.length ∈ [3, 4, 6, 8] ∧ ds ⊆ hexDigits := by
    simp only [Bool.and_eq_true, List.contains_iff_mem, all_isHexDigit_iff, implies_true]
  unfold isHexColor
  split
  · rw [hdigits]
    constructor
    · rintro ⟨hlength, hds⟩
      exact .hash hlength hds
    · intro h
      cases h with
      | plain _ hds => exact absurd (hds List.mem_cons_self) (by decide)
      | hash hlength hds => exact ⟨hlength, hds⟩
  · rename_i hcs
    rw [hdigits]
    constructor
    · rintro ⟨hlength, hds⟩
      exact .plain hlength hds
    · intro h
      cases h with
      | plain hlength hds => exact ⟨hlength, hds⟩
      | hash => exact absurd rfl (hcs _)

theorem afterHexPrefix?_eq_some_iff : afterHexPrefix? cs = some ds ↔
    ∃ mark ∈ ['x', 'X', 'h', 'H'], cs = '0' :: mark :: ds := by
  unfold afterHexPrefix?
  split
  · rename_i mark rest
    simp only [Bool.or_eq_true, beq_iff_eq, Option.ite_none_right_eq_some, Option.some.injEq,
      List.mem_cons, List.not_mem_nil, or_false, List.cons.injEq, true_and]
    constructor
    · rintro ⟨hmark, rfl⟩
      exact ⟨mark, by simpa only [or_assoc] using hmark, rfl, rfl⟩
    · rintro ⟨_, hmark, rfl, rfl⟩
      exact ⟨by simpa only [or_assoc] using hmark, rfl⟩
  · rename_i hcs
    refine iff_of_false nofun ?_
    rintro ⟨mark, -, rfl⟩
    exact hcs mark ds rfl

/-- A mark is no digit, so a text behind `0x` has no other reading. -/
theorem isHexadecimal_iff : isHexadecimal cs = true ↔ IsHexadecimal cs := by
  rw [isHexadecimal]
  simp only [Bool.and_eq_true, Bool.not_eq_true', List.isEmpty_eq_false_iff, all_isHexDigit_iff]
  cases hprefix : afterHexPrefix? cs with
  | none =>
    rw [Option.getD_none]
    constructor
    · rintro ⟨hne, hds⟩
      exact .plain hne hds
    · intro h
      cases h with
      | plain hne hds => exact ⟨hne, hds⟩
      | marked hmark =>
        rw [afterHexPrefix?_eq_some_iff.mpr ⟨_, hmark, rfl⟩] at hprefix
        cases hprefix
  | some rest =>
    rw [Option.getD_some]
    obtain ⟨mark, hmark, rfl⟩ := afterHexPrefix?_eq_some_iff.mp hprefix
    constructor
    · rintro ⟨hne, hds⟩
      exact .marked hmark hne hds
    · intro h
      cases h with
      | plain hne hds =>
        have hno : ∀ mark ∈ ['x', 'X', 'h', 'H'], mark ∉ hexDigits := by simp [hexDigits]
        exact absurd (hds (List.mem_cons_of_mem _ List.mem_cons_self)) (hno mark hmark)
      | marked _ hne hds => exact ⟨hne, hds⟩

-- ---------------------------------------------------------------------------
-- Hardware addresses
-- ---------------------------------------------------------------------------

theorem forall₂_replicate_iff {R : α → β → Prop} :
    List.Forall₂ R (List.replicate n a) bs ↔ bs.length = n ∧ ∀ b ∈ bs, R a b := by
  induction n generalizing bs with
  | zero => cases bs <;> simp
  | succ n ih =>
    cases bs with
    | nil => simp [List.replicate_succ]
    | cons b bs => simp [List.replicate_succ, ih, and_left_comm]

theorem isMacAddress_iff : isMacAddress cs = true ↔ IsMacAddress cs := by
  have hgroups : ∀ {mark}, mark ∈ [':', '-'] →
      (areHexGroups (List.replicate 6 2) (splitOn mark cs) = true ↔
        ∃ pairs : List (List Char), pairs.length = 6 ∧
          (∀ pair ∈ pairs, pair.length = 2 ∧ pair ⊆ hexDigits) ∧
          cs = [mark].intercalate pairs) := by
    intro mark hmark
    have hno : ∀ mark ∈ [':', '-'], isHexDigit mark = false :=
      List.forall_mem_cons.mpr ⟨by decide, List.forall_mem_singleton.mpr (by decide)⟩
    rw [areHexGroups_splitOn_iff (hno mark hmark) (by simp)]
    simp only [forall₂_replicate_iff, IsHexDigits, ← List.all_eq_true, all_isHexDigit_iff,
      and_assoc]
  rw [isMacAddress, List.any_eq_true, IsMacAddress]
  exact exists_congr fun mark => and_congr_right hgroups

-- ---------------------------------------------------------------------------
-- Base64
-- ---------------------------------------------------------------------------

theorem isPadded_nil : IsPadded [] := ⟨[], 0, Nat.zero_le 2, List.nil_subset _, rfl⟩

theorem isPadded_cons_iff : IsPadded (c :: cs) ↔
    c ∈ base64Alphabet ∧ IsPadded cs ∨ c = '=' ∧ (cs = [] ∨ cs = ['=']) := by
  constructor
  · rintro ⟨body, pad, hpad, hbody, h⟩
    cases body with
    | cons d body =>
      obtain ⟨rfl, rfl⟩ := List.cons.inj h
      obtain ⟨hd, hbody⟩ := List.cons_subset.mp hbody
      exact .inl ⟨hd, body, pad, hpad, hbody, rfl⟩
    | nil =>
      match pad, hpad with
      | 0, _ => cases h
      | 1, _ =>
        cases h
        exact .inr ⟨rfl, .inl rfl⟩
      | 2, _ =>
        cases h
        exact .inr ⟨rfl, .inr rfl⟩
  · rintro (⟨hc, body, pad, hpad, hbody, rfl⟩ | ⟨rfl, rfl | rfl⟩)
    · exact ⟨c :: body, pad, hpad, List.cons_subset.mpr ⟨hc, hbody⟩, rfl⟩
    · exact ⟨[], 1, (by decide), List.nil_subset _, rfl⟩
    · exact ⟨[], 2, Nat.le_refl 2, List.nil_subset _, rfl⟩

/-- A whole number of quads follows the first one, so no padding ends beyond it alone. -/
theorem isPadded_quad_iff (hrest : 4 ∣ rest.length) : IsPadded (a :: b :: c :: d :: rest) ↔
    a ∈ base64Alphabet ∧ b ∈ base64Alphabet ∧
      (c ∈ base64Alphabet ∧ (d ∈ base64Alphabet ∧ IsPadded rest ∨ d = '=' ∧ rest = []) ∨
        c = '=' ∧ d = '=' ∧ rest = []) := by
  have hone : rest ≠ ['='] := by
    rintro rfl
    exact absurd hrest (by decide)
  simp only [isPadded_cons_iff, List.cons.injEq, reduceCtorEq, hone, or_false, false_or, and_false]

theorem areBase64Quads_iff : areBase64Quads cs = true ↔ 4 ∣ cs.length ∧ IsPadded cs := by
  fun_induction areBase64Quads cs with
  | case1 => exact iff_of_true rfl ⟨Nat.dvd_zero 4, isPadded_nil⟩
  | case2 a b c d rest ih =>
    have hquads : 4 ∣ (a :: b :: c :: d :: rest).length ↔ 4 ∣ rest.length := by
      simp only [List.length_cons]
      omega
    have hsign : '=' ∉ base64Alphabet := by decide
    rw [hquads, Bool.and_eq_true, Bool.and_eq_true, isBase64Char_iff, isBase64Char_iff]
    by_cases hend : rest = [] ∧ d = '='
    · obtain ⟨rfl, rfl⟩ := hend
      rw [isPadded_quad_iff (show 4 ∣ [].length from Nat.dvd_zero 4)]
      simp [isBase64Char_iff, hsign, and_assoc, or_comm]
    · have hend' : (rest.isEmpty && d == '=') = false := by simpa using hend
      rw [hend', if_neg Bool.false_ne_true, Bool.and_eq_true, Bool.and_eq_true, isBase64Char_iff,
        isBase64Char_iff, ih]
      constructor
      · rintro ⟨⟨ha, hb⟩, ⟨hc, hd⟩, hrest, hpadded⟩
        exact ⟨hrest, (isPadded_quad_iff hrest).mpr ⟨ha, hb, .inl ⟨hc, .inl ⟨hd, hpadded⟩⟩⟩⟩
      · rintro ⟨hrest, hpadded⟩
        obtain ⟨ha, hb, ⟨hc, ⟨hd, hpadded⟩ | ⟨hd, hnil⟩⟩ | ⟨-, hd, hnil⟩⟩ :=
          (isPadded_quad_iff hrest).mp hpadded
        · exact ⟨⟨ha, hb⟩, ⟨hc, hd⟩, hrest, hpadded⟩
        · exact absurd ⟨hnil, hd⟩ hend
        · exact absurd ⟨hnil, hd⟩ hend
  | case3 cs hnil hquad =>
    refine iff_of_false Bool.false_ne_true fun ⟨hquads, _⟩ => ?_
    match cs with
    | [] => exact hnil rfl
    | [_] | [_, _] | [_, _, _] => simp at hquads
    | a :: b :: c :: d :: rest => exact hquad a b c d rest rfl

theorem isBase64_iff : isBase64 cs = true ↔ IsBase64 cs := by
  rw [isBase64, Bool.and_eq_true, Bool.not_eq_true', List.isEmpty_eq_false_iff, areBase64Quads_iff]
  constructor
  · rintro ⟨hne, hquads, hpadded⟩
    exact ⟨hne, hquads, hpadded⟩
  · rintro ⟨hne, hquads, hpadded⟩
    exact ⟨hne, hquads, hpadded⟩

-- ---------------------------------------------------------------------------
-- UUIDs
-- ---------------------------------------------------------------------------

theorem IsUuidText.parts (h : IsUuidText cs) : ∃ a b c d e, IsHexDigits 8 a ∧ IsHexDigits 4 b ∧
    IsHexDigits 4 c ∧ IsHexDigits 4 d ∧ IsHexDigits 12 e ∧
      cs = a ++ '-' :: (b ++ '-' :: (c ++ '-' :: (d ++ '-' :: e))) := by
  obtain ⟨groups, hgroups, rfl⟩ := h
  simp only [List.forall₂_cons_left_iff, List.forall₂_nil_left_iff] at hgroups
  obtain ⟨a, _, ha, ⟨b, _, hb, ⟨c, _, hc, ⟨d, _, hd, ⟨e, _, he, rfl, rfl⟩, rfl⟩, rfl⟩, rfl⟩, rfl⟩ :=
    hgroups
  exact ⟨a, b, c, d, e, ha, hb, hc, hd, he, by simp⟩

theorem IsUuidText.length (h : IsUuidText cs) : cs.length = 36 := by
  obtain ⟨a, b, c, d, e, ha, hb, hc, hd, he, rfl⟩ := h.parts
  simp [ha.1, hb.1, hc.1, hd.1, he.1]

theorem IsUuidText.ascii (h : IsUuidText cs) : ∀ c ∈ cs, isAscii c = true := by
  have hdigits {n : Nat} {ds : List Char} (hds : IsHexDigits n ds) :
      ∀ c ∈ ds, isAscii c = true := fun c hc => isAscii_of_isHexDigit (hds.2 c hc)
  have hmark : isAscii '-' = true := by decide
  obtain ⟨a, b, c, d, e, ha, hb, hc, hd, he, rfl⟩ := h.parts
  simp only [List.forall_mem_append, List.forall_mem_cons]
  exact ⟨hdigits ha, hmark, hdigits hb, hmark, hdigits hc, hmark, hdigits hd, hmark, hdigits he⟩

/-- The version and the variant start the third and the fourth group. -/
theorem IsUuidText.digit (h : IsUuidText cs) :
    ∀ i ∈ [versionIndex, variantIndex], ∃ d ∈ cs[i]?, isHexDigit d = true := by
  obtain ⟨a, b, c, d, e, ha, hb, hc, hd, -, rfl⟩ := h.parts
  obtain ⟨version, c, rfl⟩ := List.exists_cons_of_length_eq_add_one hc.1
  obtain ⟨variant, d, rfl⟩ := List.exists_cons_of_length_eq_add_one hd.1
  have hlength : c.length = 3 := Nat.succ.inj hc.1
  rw [List.forall_mem_cons, List.forall_mem_singleton]
  constructor
  · refine ⟨version, ?_, hc.2 version List.mem_cons_self⟩
    simp [versionIndex, List.getElem?_append, ha.1, hb.1]
  · refine ⟨variant, ?_, hd.2 variant List.mem_cons_self⟩
    simp [variantIndex, List.getElem?_append, ha.1, hb.1, hlength]

-- ---------------------------------------------------------------------------
-- What the notations have in common
-- ---------------------------------------------------------------------------

/-- The characters that one of the notations has a use for. -/
def notationChars : List Char := base64Alphabet ++ ['#', ':', '-', '=']

theorem hexDigits_subset : hexDigits ⊆ notationChars := by decide

theorem IsHexColor.chars (h : IsHexColor cs) : cs ⊆ notationChars := by
  cases h with
  | plain _ hds => exact List.Subset.trans hds hexDigits_subset
  | hash _ hds => exact List.cons_subset.mpr ⟨by decide, List.Subset.trans hds hexDigits_subset⟩

theorem IsHexadecimal.chars (h : IsHexadecimal cs) : cs ⊆ notationChars := by
  cases h with
  | plain _ hds => exact List.Subset.trans hds hexDigits_subset
  | marked hmark _ hds =>
    have hmarks : ['x', 'X', 'h', 'H'] ⊆ notationChars := by decide
    exact List.cons_subset.mpr ⟨by decide,
      List.cons_subset.mpr ⟨hmarks hmark, List.Subset.trans hds hexDigits_subset⟩⟩

/-- Other than digits an address holds one mark only. -/
theorem IsMacAddress.digits_or_mark (h : IsMacAddress cs) :
    ∃ mark ∈ [':', '-'], ∀ c ∈ cs, c = mark ∨ c ∈ hexDigits := by
  obtain ⟨mark, hmark, pairs, hlength, hpairs, rfl⟩ := h
  refine ⟨mark, hmark, fun c hc => or_iff_not_imp_left.mpr fun hne => ?_⟩
  have hnil : pairs ≠ [] := List.length_pos_iff.mp (hlength ▸ Nat.succ_pos 5)
  have hno : ∀ mark ∈ [':', '-'], mark ∉ hexDigits := by simp [hexDigits]
  have hsplit : splitOn mark ([mark].intercalate pairs) = pairs :=
    splitOn_eq_iff.mpr
      ⟨rfl, hnil, fun pair hpair hmem => hno mark hmark ((hpairs pair hpair).2 hmem)⟩
  obtain ⟨pair, hpair, hc⟩ := exists_mem_splitOn_iff.mpr ⟨hc, hne⟩
  exact (hpairs pair (hsplit ▸ hpair)).2 hc

theorem IsMacAddress.chars (h : IsMacAddress cs) : cs ⊆ notationChars := by
  obtain ⟨mark, hmark, hcs⟩ := h.digits_or_mark
  have hmarks : [':', '-'] ⊆ notationChars := by decide
  intro c hc
  rcases hcs c hc with rfl | hdigit
  · exact hmarks hmark
  · exact hexDigits_subset hdigit

theorem IsMacAddress.not_mixed (h : IsMacAddress cs) (hcolon : ':' ∈ cs) : '-' ∉ cs := by
  obtain ⟨mark, -, hcs⟩ := h.digits_or_mark
  intro hhyphen
  rcases hcs ':' hcolon with hmark | hdigit
  · rcases hcs '-' hhyphen with hmark' | hdigit
    · exact absurd (hmark.trans hmark'.symm) (by decide)
    · exact absurd hdigit (by decide)
  · exact absurd hdigit (by decide)

theorem IsPadded.chars (h : IsPadded cs) : cs ⊆ notationChars := by
  obtain ⟨body, pad, -, hbody, rfl⟩ := h
  have hpad : List.replicate pad '=' ⊆ notationChars := fun c hc => by
    rw [List.eq_of_mem_replicate hc]
    decide
  exact List.append_subset.mpr ⟨List.Subset.trans hbody (List.subset_append_left _ _), hpad⟩

theorem ascii_of_subset (h : cs ⊆ notationChars) : ∀ c ∈ cs, isAscii c = true := by
  have hascii : notationChars.all isAscii = true := by decide
  exact fun c hc => List.all_eq_true.mp hascii c (h hc)

/-- Behind a `#` there is no second one. -/
theorem IsHexColor.of_hash (h : IsHexColor ('#' :: cs)) : IsHexColor cs ∧ IsHexadecimal cs := by
  have hhash : '#' ∉ hexDigits := by decide
  cases h with
  | plain _ hds => exact absurd (hds List.mem_cons_self) hhash
  | hash hlength hds =>
    refine ⟨.plain hlength hds, .plain ?_ hds⟩
    rintro rfl
    exact absurd hlength (by decide)

end Notation

end RecordSchema
