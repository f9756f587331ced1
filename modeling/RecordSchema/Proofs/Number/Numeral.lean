import Mathlib.Algebra.Order.Field.Rat
import Mathlib.Data.List.TakeWhile
import RecordSchema.Decimal
import RecordSchema.Text.Blank

/-!
# What numerals denote

Grammars of integers and of decimals, each with the number that a text denotes, and without
anything about how they are read. The readers of signs, exponents and doubles take exactly these
texts (`unsignedDouble?_eq_some_iff`), and white space around a text can be removed in one way.
-/

namespace RecordSchema

namespace Decimal

-- ---------------------------------------------------------------------------
-- Grammars
-- ---------------------------------------------------------------------------

/-- ASCII digits, one or more. -/
def IsDigits (ds : List Char) : Prop := ds ≠ [] ∧ ∀ d ∈ ds, d.isDigit = true

/-- A sign or none; only the minus sign is negative. -/
inductive IsSign : List Char → Bool → Prop
  | none : IsSign [] false
  | plus : IsSign ['+'] false
  | minus : IsSign ['-'] true

def signed [Neg α] (negative : Bool) (a : α) : α := if negative then -a else a

@[simp] theorem signed_true [Neg α] (a : α) : signed true a = -a := rfl

@[simp] theorem signed_false [Neg α] (a : α) : signed false a = a := rfl

/-- An optional sign and digits, leading zeros included. -/
inductive IsInteger : List Char → Int → Prop
  | mk (hsign : IsSign sign negative) (hds : IsDigits ds) :
      IsInteger (sign ++ ds) (signed negative (Nat.ofDigitChars 10 ds 0 : Int))

/-- Digits with at most one point among or around them: the number without the point, and how many
places stand behind the point. -/
inductive IsMantissa : List Char → Nat → Nat → Prop
  | whole (hds : IsDigits ds) : IsMantissa ds (Nat.ofDigitChars 10 ds 0) 0
  | point (hds : IsDigits (whole ++ fraction)) :
      IsMantissa (whole ++ '.' :: fraction) (Nat.ofDigitChars 10 (whole ++ fraction) 0)
        fraction.length

/-- Nothing, or `e` or `E` with an integer. -/
inductive IsExponent : List Char → Int → Prop
  | none : IsExponent [] 0
  | mark (hmark : mark = 'e' ∨ mark = 'E') (h : IsInteger cs k) : IsExponent (mark :: cs) k

/-- An optional sign, a mantissa and an exponent part. -/
inductive IsDecimal : List Char → ℚ → Prop
  | mk (hsign : IsSign sign negative) (hm : IsMantissa m c places) (he : IsExponent e k) :
      IsDecimal (sign ++ (m ++ e)) (signed negative (c * 10 ^ (k - places)))

/-- An optional sign, and `inf`, `infinity` or `nan` in any case. -/
inductive IsWord : List Char → Prop
  | mk (hsign : IsSign sign negative)
      (hword : String.ofList (word.map Char.toLower) ∈ ["inf", "infinity", "nan"]) :
      IsWord (sign ++ word)

-- ---------------------------------------------------------------------------
-- Signs and digits
-- ---------------------------------------------------------------------------

theorem isDigits_iff : isDigits ds = true ↔ IsDigits ds := by
  simp [isDigits, IsDigits]

theorem isDigits_toDigits (n : Nat) : IsDigits (Nat.toDigits 10 n) :=
  ⟨Nat.toDigits_ne_nil, fun _ hd => Nat.isDigit_of_mem_toDigits (by decide) (by decide) hd⟩

theorem isDigit_of_mem_zeros : ∀ d ∈ List.replicate k '0', d.isDigit = true := by
  intro d hd
  rw [List.eq_of_mem_replicate hd]
  decide

theorem digitsValue_eq (ds : List Char) : digitsValue ds = Nat.ofDigitChars 10 ds 0 :=
  Nat.ofDigitChars_eq_foldl.symm

theorem exists_sign (cs : List Char) :
    ∃ sign, IsSign sign (splitSign cs).1 ∧ cs = sign ++ (splitSign cs).2 := by
  unfold splitSign
  split
  · exact ⟨_, .minus, rfl⟩
  · exact ⟨_, .plus, rfl⟩
  · exact ⟨_, .none, rfl⟩

/-- What follows a sign does not start with another one. -/
theorem splitSign_append (hsign : IsSign sign negative)
    (hbody : ∀ c ∈ body.head?, c ≠ '-' ∧ c ≠ '+') : splitSign (sign ++ body) = (negative, body) := by
  cases hsign with
  | plus | minus => rfl
  | none =>
    rw [List.nil_append]
    unfold splitSign
    split
    · exact ((hbody '-' rfl).1 rfl).elim
    · exact ((hbody '+' rfl).2 rfl).elim
    · rfl

theorem IsDigits.head_isDigit (h : IsDigits ds) : ∀ d ∈ ds.head?, d.isDigit = true :=
  fun d hd => h.2 d (List.mem_of_mem_head? hd)

theorem no_sign_of_isDigit {d : Char} (h : d.isDigit = true) : d ≠ '-' ∧ d ≠ '+' := by
  constructor <;> (rintro rfl; revert h; decide)

theorem isInteger_iff :
    IsInteger cs n ↔ IsDigits (splitSign cs).2 ∧
      n = signed (splitSign cs).1 (Nat.ofDigitChars 10 (splitSign cs).2 0 : Int) := by
  constructor
  · intro h
    obtain ⟨hsign, hds⟩ := h
    rw [splitSign_append hsign fun d hd => no_sign_of_isDigit (hds.head_isDigit d hd)]
    exact ⟨hds, rfl⟩
  · rintro ⟨hds, rfl⟩
    obtain ⟨sign, hsign, hcs⟩ := exists_sign cs
    have h : IsInteger (sign ++ (splitSign cs).2) _ := .mk hsign hds
    rwa [← hcs] at h

/-- A text denotes at most one integer. -/
theorem IsInteger.unique (hm : IsInteger cs m) (hn : IsInteger cs n) : m = n :=
  (isInteger_iff.mp hm).2.trans (isInteger_iff.mp hn).2.symm

theorem exponent?_eq_some_iff : exponent? cs = some k ↔ IsExponent cs k := by
  cases cs with
  | nil =>
    rw [exponent?, Option.some.injEq]
    constructor
    · rintro rfl
      exact .none
    · rintro ⟨⟩
      rfl
  | cons mark rest =>
    have hread : exponent? (mark :: rest) = some k ↔
        ((mark = 'e' ∨ mark = 'E') ∧ IsDigits (splitSign rest).2) ∧
          signed (splitSign rest).1 (Nat.ofDigitChars 10 (splitSign rest).2 0 : Int) = k := by
      simp only [exponent?, Option.ite_none_right_eq_some, Option.some.injEq, Bool.and_eq_true,
        Bool.or_eq_true, beq_iff_eq, isDigits_iff, digitsValue_eq, signed]
    rw [hread]
    constructor
    · rintro ⟨⟨hmark, hds⟩, hk⟩
      exact .mark hmark (isInteger_iff.mpr ⟨hds, hk.symm⟩)
    · intro h
      obtain _ | ⟨hmark, h⟩ := h
      obtain ⟨hds, hk⟩ := isInteger_iff.mp h
      exact ⟨⟨hmark, hds⟩, hk.symm⟩

-- ---------------------------------------------------------------------------
-- Decimals
-- ---------------------------------------------------------------------------

/-- Digits end where something else stands. -/
theorem takeWhile_digits {ds rest : List Char} (hds : ∀ d ∈ ds, d.isDigit = true)
    (hrest : ∀ c ∈ rest.head?, c.isDigit = false) :
    (ds ++ rest).takeWhile Char.isDigit = ds ∧ (ds ++ rest).dropWhile Char.isDigit = rest := by
  rw [List.takeWhile_append_of_pos hds, List.dropWhile_append_of_pos hds]
  cases rest with
  | nil => simp
  | cons c rest => simp [hrest c rfl]

theorem IsExponent.head (h : IsExponent e k) : ∀ c ∈ e.head?, c = 'e' ∨ c = 'E' := by
  cases h with
  | none => nofun
  | mark hmark => rintro _ ⟨⟩; exact hmark

theorem IsExponent.head_isDigit (h : IsExponent e k) : ∀ c ∈ e.head?, c.isDigit = false := by
  intro c hc
  rcases h.head c hc with rfl | rfl <;> decide

/-- What is made of the digits before and behind the point and of the text after them. -/
theorem assembled_eq_some_iff {whole fraction rest : List Char} :
    (if whole.isEmpty && fraction.isEmpty then none
      else (exponent? rest).map fun e =>
        Binary64.ofDecimal negative (digitsValue (whole ++ fraction)) (e - fraction.length)) =
        some b ↔
      whole ++ fraction ≠ [] ∧ ∃ k, IsExponent rest k ∧
        b = .ofDecimal negative (Nat.ofDigitChars 10 (whole ++ fraction) 0) (k - fraction.length) := by
  rw [Option.ite_none_left_eq_some, Option.map_eq_some_iff, digitsValue_eq]
  simp only [exponent?_eq_some_iff, eq_comm (b := b), Bool.and_eq_true, List.isEmpty_iff, ne_eq,
    List.append_eq_nil_iff]

theorem unsignedDouble?_eq_some_iff :
    unsignedDouble? negative cs = some b ↔ ∃ m e c places k, cs = m ++ e ∧
      IsMantissa m c places ∧ IsExponent e k ∧ b = .ofDecimal negative c (k - places) := by
  unfold unsignedDouble?
  dsimp only
  constructor
  · intro h
    have hcs : cs.takeWhile Char.isDigit ++ cs.dropWhile Char.isDigit = cs :=
      List.takeWhile_append_dropWhile
    have hdigits : ∀ l : List Char, ∀ d ∈ l.takeWhile Char.isDigit, d.isDigit = true :=
      fun _ _ => List.mem_takeWhile_imp
    split at h
    · rename_i rest hdrop
      obtain ⟨hne, k, he, rfl⟩ := assembled_eq_some_iff.mp h
      refine ⟨_, _, _, _, k, ?_, .point ⟨hne, ?_⟩, he, rfl⟩
      · rw [List.append_assoc, List.cons_append, List.takeWhile_append_dropWhile, ← hdrop, hcs]
      · exact List.forall_mem_append.mpr ⟨hdigits cs, hdigits rest⟩
    · obtain ⟨hne, k, he, rfl⟩ := assembled_eq_some_iff.mp h
      rw [List.append_nil] at hne ⊢
      exact ⟨_, _, _, _, k, hcs.symm, .whole ⟨hne, hdigits cs⟩, he, rfl⟩
  · rintro ⟨m, e, c, places, k, rfl, hm, he, rfl⟩
    cases hm with
    | whole hds =>
      obtain ⟨htake, hdrop⟩ := takeWhile_digits hds.2 he.head_isDigit
      rw [htake, hdrop]
      split
      · rcases he.head '.' rfl with h | h <;> cases h
      · refine assembled_eq_some_iff.mpr ⟨?_, k, he, ?_⟩
        · rw [List.append_nil]
          exact hds.1
        · rw [List.append_nil]
          rfl
    | @point whole fraction hds =>
      obtain ⟨hwhole, hfraction⟩ := List.forall_mem_append.mp hds.2
      have hpoint : ∀ c ∈ ('.' :: (fraction ++ e)).head?, c.isDigit = false := by
        rintro _ ⟨⟩
        decide
      obtain ⟨htake, hdrop⟩ := takeWhile_digits hwhole hpoint
      obtain ⟨htake', hdrop'⟩ := takeWhile_digits hfraction he.head_isDigit
      rw [List.append_assoc, List.cons_append, htake, hdrop]
      simp only [htake', hdrop']
      exact assembled_eq_some_iff.mpr ⟨hds.1, k, he, rfl⟩

theorem IsMantissa.head (h : IsMantissa m c places) :
    ∃ d rest, m = d :: rest ∧ (d.isDigit = true ∨ d = '.') := by
  cases h with
  | whole hds =>
    obtain ⟨d, rest, rfl⟩ := List.exists_cons_of_ne_nil hds.1
    exact ⟨d, rest, rfl, .inl (hds.2 d List.mem_cons_self)⟩
  | @point whole fraction hds =>
    cases whole with
    | nil => exact ⟨'.', fraction, rfl, .inr rfl⟩
    | cons d rest => exact ⟨d, _, rfl, .inl (hds.2 d List.mem_cons_self)⟩

/-- A decimal is cut behind its sign. -/
theorem splitSign_decimal (hsign : IsSign sign negative) (hm : IsMantissa m c places) (e : List Char) :
    splitSign (sign ++ (m ++ e)) = (negative, m ++ e) := by
  obtain ⟨d, rest, rfl, hd⟩ := hm.head
  refine splitSign_append hsign ?_
  rintro _ ⟨⟩
  rcases hd with hd | rfl
  · exact no_sign_of_isDigit hd
  · decide

-- ---------------------------------------------------------------------------
-- Words
-- ---------------------------------------------------------------------------

theorem toLower_of_isDigit {d : Char} (h : d.isDigit = true) : d.toLower = d := by
  refine dif_neg ?_
  rintro ⟨hge, -⟩
  have hle : d.toNat ≤ '9'.toNat := (Char.isDigit_iff_toNat.mp h).2
  have hge : 'A'.toNat ≤ d.toNat := hge
  exact absurd (Nat.le_trans hge hle) (by decide)

/-- Every word starts with a letter. -/
theorem head_of_word {word : List Char}
    (hword : String.ofList (word.map Char.toLower) ∈ ["inf", "infinity", "nan"]) :
    ∃ c rest, word = c :: rest ∧ (c.toLower = 'i' ∨ c.toLower = 'n') := by
  have hhead : (word.map Char.toLower).head? = some 'i' ∨
      (word.map Char.toLower).head? = some 'n' := by
    rw [← String.toList_ofList (l := word.map Char.toLower)]
    simp only [List.mem_cons, List.not_mem_nil, or_false] at hword
    rcases hword with h | h | h <;> rw [h] <;> decide
  cases word with
  | nil => simp at hhead
  | cons c rest => exact ⟨c, rest, rfl, by simpa using hhead⟩

theorem isWord_iff : IsWord cs ↔
    String.ofList ((splitSign cs).2.map Char.toLower) ∈ ["inf", "infinity", "nan"] := by
  constructor
  · rintro ⟨hsign, hword⟩
    rw [splitSign_append hsign]
    · exact hword
    · obtain ⟨c, rest, rfl, hc⟩ := head_of_word hword
      rintro _ ⟨⟩
      constructor <;> (rintro rfl; revert hc; decide)
  · intro hword
    obtain ⟨sign, hsign, hcs⟩ := exists_sign cs
    rw [hcs]
    exact .mk hsign hword

/-- A decimal starts with a digit or a point. -/
theorem IsDecimal.not_isWord (h : IsDecimal cs q) : ¬ IsWord cs := by
  obtain ⟨hsign, hm, he⟩ := h
  rw [isWord_iff, splitSign_decimal hsign hm]
  intro hword
  obtain ⟨d, rest, rfl, hd⟩ := hm.head
  obtain ⟨_, _, ⟨⟩, hlower⟩ := head_of_word hword
  rcases hd with hd | rfl
  · rw [toLower_of_isDigit hd] at hlower
    rcases hlower with rfl | rfl <;> revert hd <;> decide
  · revert hlower
    decide

end Decimal

namespace Binary64

open Decimal

theorem ofText?_of_isWord {text : String} (h : IsWord text.toList) :
    ofText? text = some .nan ∨ ∃ negative, ofText? text = some (.infinite negative) := by
  rw [isWord_iff] at h
  unfold ofText?
  dsimp only
  split
  · exact .inr ⟨_, rfl⟩
  · rename_i hinfinite
    split
    · exact .inl rfl
    · rename_i hnan
      simp_all

theorem ofText?_of_not_isWord {text : String} (h : ¬ IsWord text.toList) :
    ofText? text = unsignedDouble? (splitSign text.toList).1 (splitSign text.toList).2 := by
  simp only [isWord_iff, List.mem_cons, List.not_mem_nil, or_false, not_or] at h
  obtain ⟨hinf, hinfinity, hnan⟩ := h
  simp only [ofText?, beq_eq_false_iff_ne.mpr hinf, beq_eq_false_iff_ne.mpr hinfinity,
    beq_eq_false_iff_ne.mpr hnan, Bool.or_self, Bool.false_eq_true, if_false]

/-- A decimal is read as the double that its mantissa and exponent give. -/
theorem ofText?_decimal {text : String} (hsign : IsSign sign negative) (hm : IsMantissa m c places)
    (he : IsExponent e k) (htext : text.toList = sign ++ (m ++ e)) :
    ofText? text = some (.ofDecimal negative c (k - places)) := by
  have hword : ¬ IsWord text.toList := htext ▸ (IsDecimal.mk hsign hm he).not_isWord
  rw [ofText?_of_not_isWord hword, htext, splitSign_decimal hsign hm]
  exact unsignedDouble?_eq_some_iff.mpr ⟨m, e, c, places, k, rfl, hm, he, rfl⟩

/-- What is read beside the words are the decimals. -/
theorem exists_decimal_of_ofText? {text : String} (hword : ¬ IsWord text.toList)
    (h : ofText? text = some x) : ∃ sign negative m e c places k, IsSign sign negative ∧
      IsMantissa m c places ∧ IsExponent e k ∧ text.toList = sign ++ (m ++ e) ∧
      ofDecimal negative c (k - places) = x := by
  rw [ofText?_of_not_isWord hword] at h
  obtain ⟨m, e, c, places, k, hcs, hm, he, hx⟩ := unsignedDouble?_eq_some_iff.mp h
  obtain ⟨sign, hsign, htext⟩ := exists_sign text.toList
  exact ⟨sign, _, m, e, c, places, k, hsign, hm, he, hcs ▸ htext, hx.symm⟩

/-- The words denote no finite double, and they are no decimals. -/
theorem ofText?_eq_finite_iff {text : String} :
    ofText? text = some (.finite x) ↔ ∃ sign negative m e c places k, IsSign sign negative ∧
      IsMantissa m c places ∧ IsExponent e k ∧ text.toList = sign ++ (m ++ e) ∧
      ofDecimal negative c (k - places) = .finite x := by
  constructor
  · intro h
    refine exists_decimal_of_ofText? (fun hword => ?_) h
    rcases ofText?_of_isWord hword with hnan | ⟨negative, hinfinite⟩
    · cases h.symm.trans hnan
    · cases h.symm.trans hinfinite
  · rintro ⟨sign, negative, m, e, c, places, k, hsign, hm, he, htext, hx⟩
    rw [ofText?_decimal hsign hm he htext, hx]

theorem isSome_ofText?_iff {text : String} :
    (ofText? text).isSome = true ↔ IsWord text.toList ∨ ∃ q, IsDecimal text.toList q := by
  constructor
  · intro h
    obtain ⟨x, hx⟩ := Option.isSome_iff_exists.mp h
    by_cases hword : IsWord text.toList
    · exact .inl hword
    · obtain ⟨sign, negative, m, e, c, places, k, hsign, hm, he, htext, -⟩ :=
        exists_decimal_of_ofText? hword hx
      exact .inr ⟨_, htext ▸ IsDecimal.mk hsign hm he⟩
  · rintro (hword | ⟨q, hq⟩)
    · rcases ofText?_of_isWord hword with hnan | ⟨negative, hinfinite⟩
      · rw [hnan, Option.isSome_some]
      · rw [hinfinite, Option.isSome_some]
    · generalize htext : text.toList = cs at hq
      obtain ⟨hsign, hm, he⟩ := hq
      rw [ofText?_decimal hsign hm he htext, Option.isSome_some]

end Binary64

-- ---------------------------------------------------------------------------
-- White space at the ends
-- ---------------------------------------------------------------------------

namespace Text

theorem exists_trimChars (cs : List Char) :
    ∃ before after, cs = before ++ (trimChars cs ++ after) ∧
      (∀ c ∈ before, isBlank c = true) ∧ ∀ c ∈ after, isBlank c = true := by
  let rest := (cs.dropWhile isBlank).reverse
  refine ⟨cs.takeWhile isBlank, (rest.takeWhile isBlank).reverse, ?_, ?_, ?_⟩
  · rw [trimChars, ← List.reverse_append, List.takeWhile_append_dropWhile, List.reverse_reverse,
      List.takeWhile_append_dropWhile]
  · exact fun _ => List.mem_takeWhile_imp
  · exact fun c hc => List.mem_takeWhile_imp (List.mem_reverse.mp hc)

theorem dropWhile_of_not_blank {cs : List Char} (h : ∀ c ∈ cs, isBlank c = false) :
    cs.dropWhile isBlank = cs := by
  cases cs with
  | nil => rfl
  | cons c rest => rw [List.dropWhile_cons_of_neg (by simp [h c List.mem_cons_self])]

theorem trimChars_append {before body after : List Char} (hbefore : ∀ c ∈ before, isBlank c = true)
    (hbody : ∀ c ∈ body, isBlank c = false) (hafter : ∀ c ∈ after, isBlank c = true) :
    trimChars (before ++ (body ++ after)) = body := by
  rw [trimChars, List.dropWhile_append_of_pos hbefore]
  cases body with
  | nil =>
    have hnil : after.dropWhile isBlank = [] := List.dropWhile_eq_nil_iff.mpr hafter
    rw [List.nil_append, hnil]
    rfl
  | cons c rest =>
    have hrest : ∀ d ∈ (c :: rest).reverse, isBlank d = false :=
      fun d hd => hbody d (List.mem_reverse.mp hd)
    rw [List.cons_append, List.dropWhile_cons_of_neg (by simp [hbody c List.mem_cons_self]),
      ← List.cons_append, List.reverse_append,
      List.dropWhile_append_of_pos fun d hd => hafter d (List.mem_reverse.mp hd),
      dropWhile_of_not_blank hrest, List.reverse_reverse]

end Text

namespace Decimal

open Text (isBlank)

theorem isBlank_of_isDigit {d : Char} (h : d.isDigit = true) : isBlank d = false := by
  obtain ⟨hge, hle⟩ := Char.isDigit_iff_toNat.mp h
  have hge : 48 ≤ d.toNat := hge
  have hle : d.toNat ≤ 57 := hle
  simp [isBlank]
  omega

theorem IsSign.not_blank (h : IsSign sign negative) : ∀ c ∈ sign, isBlank c = false := by
  cases h <;> simp [isBlank]

theorem IsInteger.not_blank (h : IsInteger cs n) : ∀ c ∈ cs, isBlank c = false := by
  obtain ⟨hsign, hds⟩ := h
  exact List.forall_mem_append.mpr ⟨hsign.not_blank, fun d hd => isBlank_of_isDigit (hds.2 d hd)⟩

theorem IsMantissa.not_blank (h : IsMantissa m c places) : ∀ d ∈ m, isBlank d = false := by
  cases h with
  | whole hds => exact fun d hd => isBlank_of_isDigit (hds.2 d hd)
  | point hds =>
    obtain ⟨hwhole, hfraction⟩ := List.forall_mem_append.mp hds.2
    exact List.forall_mem_append.mpr ⟨fun d hd => isBlank_of_isDigit (hwhole d hd),
      List.forall_mem_cons.mpr ⟨by decide, fun d hd => isBlank_of_isDigit (hfraction d hd)⟩⟩

theorem IsExponent.not_blank (h : IsExponent e k) : ∀ c ∈ e, isBlank c = false := by
  cases h with
  | none => nofun
  | mark hmark h =>
    refine List.forall_mem_cons.mpr ⟨?_, h.not_blank⟩
    rcases hmark with rfl | rfl <;> decide

/-- There is no white space in a decimal. -/
theorem IsDecimal.not_blank (h : IsDecimal cs q) : ∀ c ∈ cs, isBlank c = false := by
  obtain ⟨hsign, hm, he⟩ := h
  exact List.forall_mem_append.mpr
    ⟨hsign.not_blank, List.forall_mem_append.mpr ⟨hm.not_blank, he.not_blank⟩⟩

end Decimal

end RecordSchema
