import RecordSchema.Proofs.Rule.Expression.Class
import RecordSchema.Proofs.Rule.Notation
import RecordSchema.Proofs.Unicode.Folding

/-!
# Fixed notations as patterns

Colours, hexadecimal numbers, hardware addresses, UUIDs and base64: the text of each pattern, what it
compiles to, and that the check answers as the pattern does.
-/

namespace RecordSchema

open Computability Unicode Pattern Notation

namespace Expression

-- ---------------------------------------------------------------------------
-- Colours
-- ---------------------------------------------------------------------------

def hexColorText : String := "^#?([0-9A-Fa-f]{3}|[0-9A-Fa-f]{4}|[0-9A-Fa-f]{6}|[0-9A-Fa-f]{8})$"

def hexColor : List Pattern :=
  [optional (.char (.single '#') 0), .group true (.branch
    [exactly 3 hexDigit, exactly 4 hexDigit, exactly 6 hexDigit, exactly 8 hexDigit])]

theorem describes_hexColor : Describes hexColorText isHexColor := by
  refine describes_of_language (show _ = some (anchored hexColor) by cbv) rfl fun cs => ?_
  have hlanguage : languageAll hexColor =
      (1 + {['#']}) * (letters Text.isHexDigit ^ 3 + (letters Text.isHexDigit ^ 4 +
        (letters Text.isHexDigit ^ 6 + letters Text.isHexDigit ^ 8))) := by
    simp [hexColor, languageAll, languageAny]
  have hdigits {ds : List Char} : (ds.length ∈ [3, 4, 6, 8] ∧ ds ⊆ hexDigits) ↔
      ds ∈ letters Text.isHexDigit ^ 3 + (letters Text.isHexDigit ^ 4 +
        (letters Text.isHexDigit ^ 6 + letters Text.isHexDigit ^ 8)) := by
    simp only [Language.mem_add, mem_letters_pow, ← all_isHexDigit_iff, List.all_eq_true,
      List.mem_cons, List.not_mem_nil, or_false, or_and_right]
  rw [hlanguage, mem_optional_mul, mem_singleton_mul, ← hdigits, isHexColor_iff]
  simp only [← hdigits]
  constructor
  · rintro (⟨hlength, hds⟩ | ⟨hlength, hds⟩)
    · exact .inl ⟨hlength, hds⟩
    · exact .inr ⟨_, ⟨hlength, hds⟩, rfl⟩
  · rintro (⟨hlength, hds⟩ | ⟨_, ⟨hlength, hds⟩, rfl⟩)
    · exact .plain hlength hds
    · exact .hash hlength hds

-- ---------------------------------------------------------------------------
-- Hexadecimal numbers
-- ---------------------------------------------------------------------------

def hexadecimalText : String := "^(?i:0x|0h)?[0-9A-Fa-f]+$"

/-- A character of ASCII in any of its cases. -/
def anyCase (c : Char) : Pattern :=
  .char (.ofRanges ((c.toNat :: otherCases c.toNat).map fun n => (n, n))) 0

theorem language_anyCase {c : Char} (hcases : otherCases c.toNat = others.map Char.toNat) :
    (anyCase c).language = letters (c :: others).contains := by
  refine language_class 0 fun d => ?_
  rw [Bool.eq_iff_iff, CharSet.contains, (CharSet.ordered_ofRanges _).containsCode_iff,
    CharSet.holds_ofRanges, reaches_points, hcases, ← List.map_cons, List.contains_iff_mem]
  exact List.mem_map_of_injective fun _ _ => Char.toNat_inj.mp

def hexMark : Pattern :=
  .branch [.concat [anyCase '0', anyCase 'x'], .concat [anyCase '0', anyCase 'h']]

def hexadecimal : List Pattern :=
  [optional (.group false hexMark), .repeated hexDigit 1 none]

theorem run_cons {r : Reader} (hverbose : r.flags.verbose = false)
    (h : r.step (c :: cs) = some (next, after)) (rounds : Nat) :
    r.run (rounds + 1) (c :: cs) = next.run rounds after := by
  rw [Reader.run]
  simp only [skip, hverbose, h, Bool.false_eq_true, if_false]

def caseless : Flags := { Flags.initial with ignoreCase := true }

/-- Where case is ignored a letter stands for all its cases. -/
theorem run_letter {r : Reader} (hascii : c.toNat < 0x80)
    (hc : ∀ pair ∈ asciiFoldPairs, pair.2 ≠ c.toNat)
    (hflags : r.flags = caseless)
    (hstep : r.step (c :: cs) = (r.atom? (.literal c false)).map (·, cs)) (rounds : Nat) :
    r.run (rounds + 1) (c :: cs) = (r.push (anyCase c)).run rounds cs := by
  refine run_cons (by rw [hflags]; rfl) ?_ rounds
  rw [hstep, Reader.atom?, literalSet?, hflags]
  simp [Flags.fold, caseless, Flags.initial, foldClosure_single hascii hc, anyCase]

/-- The folding table is too large to be evaluated, so the letters are read one by one. -/
theorem compile?_hexadecimal : compile? hexadecimalText.toList = some (anchored hexadecimal) := by
  have hchars : hexadecimalText.toList = ['^', '(', '?', 'i', ':', '0', 'x', '|', '0', 'h', ')',
      '?', '[', '0', '-', '9', 'A', '-', 'F', 'a', '-', 'f', ']', '+', '$'] := rfl
  have hrun : (Reader.mk .initial [] [] [] []).run 25 hexadecimalText.toList =
      some ⟨.initial, [.look .textEnd, .repeated hexDigit 1 none, optional (.group false hexMark),
        .look .textStart], [], [], []⟩ := by
    rw [hchars, run_cons rfl rfl, run_cons rfl rfl, run_letter (by decide) (by decide) rfl rfl,
      run_letter (by decide) (by decide) rfl rfl, run_cons rfl rfl,
      run_letter (by decide) (by decide) rfl rfl, run_letter (by decide) (by decide) rfl rfl]
    cbv
  have hpattern : ofChars? hexadecimalText.toList = some (anchored hexadecimal) := by
    rw [ofChars?, show hexadecimalText.toList.length = 25 from rfl, hrun]
    cbv
  rw [compile?, hpattern]
  cbv

theorem describes_hexadecimal : Describes hexadecimalText isHexadecimal := by
  refine describes_of_language compile?_hexadecimal rfl fun cs => ?_
  have hlanguage : languageAll hexadecimal =
      (1 + (letters ['0'].contains * letters ['x', 'X'].contains +
        letters ['0'].contains * letters ['h', 'H'].contains)) *
      (letters Text.isHexDigit * (letters Text.isHexDigit)∗) := by
    simp [hexadecimal, hexMark, languageAll, languageAny,
      language_anyCase (show otherCases '0'.toNat = [].map Char.toNat by decide),
      language_anyCase (show otherCases 'x'.toNat = ['X'].map Char.toNat by decide),
      language_anyCase (show otherCases 'h'.toNat = ['H'].map Char.toNat by decide)]
  have hdigits {ds : List Char} : ds ∈ letters Text.isHexDigit * (letters Text.isHexDigit)∗ ↔
      ds ≠ [] ∧ ds ⊆ hexDigits := by
    rw [mem_letters_some, ← all_isHexDigit_iff, List.all_eq_true]
  rw [hlanguage, isHexadecimal_iff, mem_optional_mul, add_mul, Language.mem_add, mul_assoc,
    mul_assoc, hdigits]
  simp only [mem_letters_mul, hdigits, List.contains_iff_mem]
  constructor
  · rintro (⟨hne, hds⟩ | ⟨hmark, hne, hds⟩)
    · exact .inl ⟨hne, hds⟩
    · rcases List.mem_append.mp (show _ ∈ ['x', 'X'] ++ ['h', 'H'] from hmark) with hmark | hmark
      · exact .inr (.inl ⟨_, _, List.mem_singleton_self '0', ⟨_, _, hmark, ⟨hne, hds⟩, rfl⟩, rfl⟩)
      · exact .inr (.inr ⟨_, _, List.mem_singleton_self '0', ⟨_, _, hmark, ⟨hne, hds⟩, rfl⟩, rfl⟩)
  · rintro (⟨hne, hds⟩ | ⟨_, _, hzero, ⟨_, _, hmark, ⟨hne, hds⟩, rfl⟩, rfl⟩ |
      ⟨_, _, hzero, ⟨_, _, hmark, ⟨hne, hds⟩, rfl⟩, rfl⟩)
    · exact .plain hne hds
    · obtain rfl := List.mem_singleton.mp hzero
      exact .marked (List.mem_append_left ['h', 'H'] hmark) hne hds
    · obtain rfl := List.mem_singleton.mp hzero
      exact .marked (List.mem_append_right ['x', 'X'] hmark) hne hds

-- ---------------------------------------------------------------------------
-- Groups of hexadecimal digits
-- ---------------------------------------------------------------------------

/-- Groups of hexadecimal digits of the given lengths, with a mark between them. -/
def groups (mark : Char) : List Nat → Language Char
  | [] => 1
  | [length] => letters Text.isHexDigit ^ length
  | length :: next :: lengths =>
    letters Text.isHexDigit ^ length * ({[mark]} * groups mark (next :: lengths))

theorem mem_groups {mark : Char} (hlengths : lengths ≠ []) : cs ∈ groups mark lengths ↔
    ∃ parts, List.Forall₂ IsHexDigits lengths parts ∧ cs = [mark].intercalate parts := by
  induction lengths generalizing cs with
  | nil => exact absurd rfl hlengths
  | cons length lengths ih =>
    cases lengths with
    | nil =>
      rw [groups, mem_letters_pow]
      constructor
      · intro h
        exact ⟨[cs], .cons h .nil, by simp⟩
      · rintro ⟨_, ⟨⟩ | ⟨h, ⟨⟩⟩, rfl⟩
        simpa [IsHexDigits] using h
    | cons next lengths =>
      rw [groups, Language.mem_mul]
      simp only [mem_letters_pow, mem_singleton_mul, ih (List.cons_ne_nil _ _)]
      constructor
      · rintro ⟨first, hfirst, _, ⟨_, ⟨parts, hparts, rfl⟩, rfl⟩, rfl⟩
        refine ⟨first :: parts, .cons hfirst hparts, ?_⟩
        cases hparts
        simp
      · rintro ⟨_, ⟨⟩ | ⟨hfirst, hparts⟩, rfl⟩
        refine ⟨_, hfirst, _, ⟨_, ⟨_, hparts, rfl⟩, rfl⟩, ?_⟩
        cases hparts
        simp

theorem groups_replicate (mark : Char) (length n : Nat) :
    groups mark (List.replicate (n + 1) length) =
      letters Text.isHexDigit ^ length * ({[mark]} * letters Text.isHexDigit ^ length) ^ n := by
  induction n with
  | zero => rw [List.replicate_one, groups, pow_zero, mul_one]
  | succ n ih =>
    rw [List.replicate_succ, List.replicate_succ, groups, ← List.replicate_succ, ih, pow_succ',
      mul_assoc {[mark]}]

def uuidText : String :=
  "^[0-9A-Fa-f]{8}-[0-9A-Fa-f]{4}-[0-9A-Fa-f]{4}-[0-9A-Fa-f]{4}-[0-9A-Fa-f]{12}$"

def uuid : List Pattern :=
  [exactly 8 hexDigit, .char (.single '-') 0, exactly 4 hexDigit, .char (.single '-') 0,
    exactly 4 hexDigit, .char (.single '-') 0, exactly 4 hexDigit, .char (.single '-') 0,
    exactly 12 hexDigit]

theorem describes_uuid : Describes uuidText isUuidShape := by
  refine describes_of_language (show _ = some (anchored uuid) by cbv) rfl fun cs => ?_
  have hlanguage : languageAll uuid = groups '-' [8, 4, 4, 4, 12] := by
    simp [uuid, languageAll, groups]
  rw [hlanguage, mem_groups (List.cons_ne_nil _ _), isUuidShape_iff, IsUuidText]

def macGroups (mark : Char) : Pattern :=
  .concat [exactly 2 hexDigit,
    exactly 5 (.group true (.concat [.char (.single mark) 0, exactly 2 hexDigit]))]

def macAddressText : String :=
  "^([0-9A-Fa-f]{2}(:[0-9A-Fa-f]{2}){5}|[0-9A-Fa-f]{2}(-[0-9A-Fa-f]{2}){5})$"

def macAddress : List Pattern := [.group true (.branch [macGroups ':', macGroups '-'])]

theorem describes_macAddress : Describes macAddressText isMacAddress := by
  refine describes_of_language (show _ = some (anchored macAddress) by cbv) rfl fun cs => ?_
  have hgroups (mark : Char) : (macGroups mark).language = groups mark (List.replicate 6 2) := by
    rw [groups_replicate]
    simp [macGroups, languageAll]
  have hlanguage : languageAll macAddress =
      groups ':' (List.replicate 6 2) + groups '-' (List.replicate 6 2) := by
    simp [macAddress, languageAll, languageAny, hgroups]
  have hreads {mark : Char} (hmark : Text.isHexDigit mark = false) :
      cs ∈ groups mark (List.replicate 6 2) ↔
        areHexGroups (List.replicate 6 2) (Text.splitOn mark cs) = true := by
    have hlengths : List.replicate 6 2 ≠ [] := List.cons_ne_nil _ _
    rw [mem_groups hlengths, areHexGroups_splitOn_iff hmark hlengths]
  rw [hlanguage, Language.mem_add, hreads (by decide), hreads (by decide), isMacAddress]
  simp

-- ---------------------------------------------------------------------------
-- Base64
-- ---------------------------------------------------------------------------

def base64Text : String := "^(?:[A-Za-z0-9+/]{4})*(?:[A-Za-z0-9+/]{2}==|[A-Za-z0-9+/]{3}=)?$"

def base64 : List Pattern :=
  [.repeated (.group false (exactly 4 base64Letter)) 0 none,
    optional (.group false (.branch
      [.concat [exactly 2 base64Letter, .char (.single '=') 0, .char (.single '=') 0],
        .concat [exactly 3 base64Letter, .char (.single '=') 0]]))]

/-- The text after the last whole quad. -/
def base64Tail : Language Char :=
  1 + (letters isBase64Char ^ 2 * ({['=']} * {['=']}) +
    letters isBase64Char ^ 3 * {['=']})

theorem mem_base64Tail_iff : cs ∈ base64Tail ↔ cs = [] ∨ ∃ a b c,
    isBase64Char a = true ∧ isBase64Char b = true ∧ (c = '=' ∨ isBase64Char c = true) ∧
      cs = [a, b, c, '='] := by
  simp only [base64Tail, pow_succ', pow_zero, one_mul, mul_assoc, Language.mem_add,
    Language.mem_one]
  refine or_congr_right ?_
  constructor
  · rintro (h | h)
    · simp only [mem_letters_mul, mem_singleton_mul, mem_singleton_language] at h
      obtain ⟨a, _, ha, ⟨b, _, hb, ⟨_, rfl, rfl⟩, rfl⟩, rfl⟩ := h
      exact ⟨a, b, '=', ha, hb, .inl rfl, rfl⟩
    · simp only [mem_letters_mul, mem_singleton_language] at h
      obtain ⟨a, _, ha, ⟨b, _, hb, ⟨c, _, hc, rfl, rfl⟩, rfl⟩, rfl⟩ := h
      exact ⟨a, b, c, ha, hb, .inr hc, rfl⟩
  · rintro ⟨a, b, c, ha, hb, rfl | hc, rfl⟩
    · exact .inl (by simp [ha, hb])
    · exact .inr (by simp [ha, hb, hc])

theorem mem_quad_mul {L : Language Char} : cs ∈ letters isBase64Char ^ 4 * L ↔
    ∃ a b c d rest, isBase64Char a = true ∧ isBase64Char b = true ∧ isBase64Char c = true ∧
      isBase64Char d = true ∧ rest ∈ L ∧ cs = a :: b :: c :: d :: rest := by
  simp only [pow_succ', pow_zero, one_mul, mul_assoc, mem_letters_mul]
  constructor
  · rintro ⟨a, _, ha, ⟨b, _, hb, ⟨c, _, hc, ⟨d, rest, hd, hrest, rfl⟩, rfl⟩, rfl⟩, rfl⟩
    exact ⟨a, b, c, d, rest, ha, hb, hc, hd, hrest, rfl⟩
  · rintro ⟨a, b, c, d, rest, ha, hb, hc, hd, hrest, rfl⟩
    exact ⟨a, _, ha, ⟨b, _, hb, ⟨c, _, hc, ⟨d, rest, hd, hrest, rfl⟩, rfl⟩, rfl⟩, rfl⟩

/-- Quads are taken from the front; what is left at the end is the tail. -/
theorem areBase64Quads_iff_mem :
    areBase64Quads cs = true ↔ cs ∈ (letters isBase64Char ^ 4)∗ * base64Tail := by
  have hunfold (cs : List Char) : cs ∈ (letters isBase64Char ^ 4)∗ * base64Tail ↔
      cs ∈ base64Tail ∨
        cs ∈ letters isBase64Char ^ 4 * ((letters isBase64Char ^ 4)∗ * base64Tail) := by
    rw [← Language.mem_add, ← mul_assoc, ← one_add_mul, Language.one_add_self_mul_kstar_eq_kstar]
  rw [hunfold, mem_base64Tail_iff, mem_quad_mul]
  fun_induction areBase64Quads cs with
  | case1 => exact iff_of_true rfl (.inl (.inl rfl))
  | case2 a b c d rest ih =>
    rw [← mem_base64Tail_iff, ← mem_quad_mul, ← hunfold] at ih
    have hsign : isBase64Char '=' = false := by decide
    by_cases hend : rest = [] ∧ d = '='
    · obtain ⟨rfl, rfl⟩ := hend
      simp [hsign, and_assoc]
    · have hend' : (rest.isEmpty && d == '=') = false := by simpa using hend
      rw [hend', if_neg Bool.false_ne_true, or_iff_right]
      · simp [ih, and_assoc]
      · rintro (hnil | ⟨_, _, _, -, -, -, htail⟩)
        · cases hnil
        · cases htail
          exact hend ⟨rfl, rfl⟩
  | case3 cs hnil hquad =>
    refine iff_of_false Bool.false_ne_true ?_
    rintro ((rfl | ⟨a, b, c, -, -, -, rfl⟩) | ⟨a, b, c, d, rest, -, -, -, -, -, rfl⟩)
    · exact hnil rfl
    · exact hquad _ _ _ _ _ rfl
    · exact hquad _ _ _ _ _ rfl

theorem describes_base64 : Describes base64Text areBase64Quads := by
  refine describes_of_language (show _ = some (anchored base64) by cbv) rfl fun cs => ?_
  have hlanguage : languageAll base64 = (letters isBase64Char ^ 4)∗ * base64Tail := by
    simp [base64, languageAll, languageAny, base64Tail]
  rw [hlanguage, areBase64Quads_iff_mem]

end Expression

-- ---------------------------------------------------------------------------
-- Checks
-- ---------------------------------------------------------------------------

namespace Check

open Notation Expression

/-- A check that takes exactly the texts of a notation, which are ASCII and end with themselves. -/
structure Reads (check : Check) (IsText : List Char → Prop) : Prop where
  accepts_iff : ∀ s, check.accepts s = true ↔ IsText s.toList
  ascii : ∀ s, check.accepts s = true → ∀ c ∈ s.toList, Text.isAscii c = true
  line_end : ∀ s, check.accepts (s ++ "\n") = false

theorem reads_of_chars {check : Check} {IsText : List Char → Prop}
    (haccepts : ∀ s, check.accepts s = true ↔ IsText s.toList)
    (hchars : ∀ cs, IsText cs → cs ⊆ notationChars) : check.Reads IsText where
  accepts_iff := haccepts
  ascii := fun s h => ascii_of_subset (hchars _ ((haccepts s).mp h))
  line_end := by
    intro s
    rw [Bool.eq_false_iff]
    intro h
    have hmem : '\n' ∈ (s ++ "\n").toList := by simp
    exact absurd (hchars _ ((haccepts _).mp h) hmem) (by decide)

/-- Whole quads of ASCII are a multiple of four bytes. -/
theorem base64_accepts_eq (s : String) :
    base64.accepts s = (!s.isEmpty && s.utf8ByteSize % 4 == 0 && areBase64Quads s.toList) := by
  have hempty : s.toList.isEmpty = s.isEmpty := by
    rw [Bool.eq_iff_iff, List.isEmpty_iff, String.toList_eq_nil_iff, String.isEmpty_iff]
  have haccepts : base64.accepts s = (!s.toList.isEmpty && areBase64Quads s.toList) := rfl
  rw [haccepts, hempty]
  by_cases hquads : areBase64Quads s.toList = true
  · obtain ⟨hquarter, hpadded⟩ := areBase64Quads_iff.mp hquads
    have hsize : s.utf8ByteSize = s.toList.length := by
      have h := Text.utf8ByteSize_of_ascii (ascii_of_subset hpadded.chars)
      rwa [String.ofList_toList] at h
    have hbytes : s.utf8ByteSize % 4 = 0 := by rw [hsize, Nat.mod_eq_zero_of_dvd hquarter]
    simp [hbytes]
  · simp [hquads]

/-- Each check reads its notation, as its pattern does, and asks for nothing else. -/
theorem fixed_formats :
    hexColor.Reads IsHexColor ∧ hexadecimal.Reads IsHexadecimal ∧
    macAddress.Reads IsMacAddress ∧ base64.Reads IsBase64 ∧
    (∀ s : String, ':' ∈ s.toList → '-' ∈ s.toList → macAddress.accepts s = false) ∧
    (∀ s, hexColor.accepts ("#" ++ s) = true →
      hexColor.accepts s = true ∧ hexadecimal.accepts s = true) ∧
    (∀ s,
      answer? hexColorText s = some (hexColor.accepts s) ∧
      answer? hexadecimalText s = some (hexadecimal.accepts s) ∧
      answer? macAddressText s = some (macAddress.accepts s) ∧
      (answer? base64Text s).map (!s.isEmpty && s.utf8ByteSize % 4 == 0 && ·) =
        some (base64.accepts s)) := by
  have hcolor (s : String) : hexColor.accepts s = true ↔ IsHexColor s.toList := isHexColor_iff
  have hhex (s : String) : hexadecimal.accepts s = true ↔ IsHexadecimal s.toList :=
    isHexadecimal_iff
  have hmac (s : String) : macAddress.accepts s = true ↔ IsMacAddress s.toList := isMacAddress_iff
  have hbase (s : String) : base64.accepts s = true ↔ IsBase64 s.toList := isBase64_iff
  refine ⟨reads_of_chars hcolor fun _ h => h.chars, reads_of_chars hhex fun _ h => h.chars,
    reads_of_chars hmac fun _ h => h.chars, reads_of_chars hbase fun _ h => h.padded.chars,
    ?_, ?_, ?_⟩
  · intro s hcolon hhyphen
    rw [Bool.eq_false_iff]
    exact fun h => ((hmac s).mp h).not_mixed hcolon hhyphen
  · intro s h
    rw [hcolor, String.toList_append] at h
    rw [hcolor, hhex]
    exact h.of_hash
  · intro s
    refine ⟨describes_hexColor.answer? s, describes_hexadecimal.answer? s,
      describes_macAddress.answer? s, ?_⟩
    rw [describes_base64.answer? s, Option.map_some, base64_accepts_eq]

/-- White, and an address with both marks. -/
theorem fixed_formats_white :
    hexColor.accepts "#fff" = true ∧ hexColor.accepts "fff" = true ∧
    hexadecimal.accepts "fff" = true ∧ macAddress.accepts "01:23-45:67:89:ab" = false := by
  obtain ⟨-, -, -, -, hmixed, hhash, -⟩ := fixed_formats
  have hwhite : hexColor.accepts ("#" ++ "fff") = true := rfl
  obtain ⟨hcolor, hnumber⟩ := hhash "fff" hwhite
  exact ⟨hwhite, hcolor, hnumber, hmixed "01:23-45:67:89:ab" (by simp) (by simp)⟩

end Check

end RecordSchema
