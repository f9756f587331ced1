import Mathlib.Data.List.Induction
import RecordSchema.Host.Ip
import RecordSchema.Proofs.Number.Numeral
import RecordSchema.Proofs.Text.Split

/-!
# The grammars of IP addresses

An IPv4 address is four numbers up to 255 with points between them (`isV4_iff`). An IPv6 address
is groups of hexadecimal digits with colons between them, eight of them or less with `::` in place
of the others (`isV6_iff`). A colon tells the two kinds apart (`not_both`).
-/

namespace RecordSchema

-- ---------------------------------------------------------------------------
-- Digits
-- ---------------------------------------------------------------------------

namespace Decimal

theorem digitChar_of_isDigit {d : Char} (h : d.isDigit = true) :
    d.toNat - '0'.toNat < 10 ∧ Nat.digitChar (d.toNat - '0'.toNat) = d := by
  have hlow : 48 ≤ d.toNat := (Char.isDigit_iff_toNat.mp h).1
  have hhigh : d.toNat ≤ 57 := (Char.isDigit_iff_toNat.mp h).2
  have hlt : d.toNat - '0'.toNat < 10 := by
    change d.toNat - 48 < 10
    omega
  refine ⟨hlt, Char.toNat_inj.mp ?_⟩
  rw [Nat.toNat_digitChar_of_lt_ten hlt]
  exact Nat.add_sub_cancel' hlow

/-- Digits without a spare zero in front are those of their number. -/
theorem toDigits_ofDigitChars {ds : List Char} (h : IsDigits ds)
    (hzero : ds = ['0'] ∨ ds.head? ≠ some '0') :
    Nat.toDigits 10 (Nat.ofDigitChars 10 ds 0) = ds := by
  obtain ⟨hne, hdigits⟩ := h
  induction ds using List.reverseRecOn with
  | nil => exact absurd rfl hne
  | append_singleton front d ih =>
    rw [List.forall_mem_append, List.forall_mem_singleton] at hdigits
    obtain ⟨hlt, hchar⟩ := digitChar_of_isDigit hdigits.2
    rw [Nat.ofDigitChars_append, Nat.ofDigitChars_cons, Nat.ofDigitChars_nil]
    cases front with
    | nil =>
      rw [Nat.ofDigitChars_nil, Nat.mul_zero, Nat.zero_add, Nat.toDigits_of_lt_base hlt, hchar]
      rfl
    | cons first rest =>
      have hhead : (first :: rest).head? ≠ some '0' := by simpa using hzero
      have ih := ih (.inr hhead) (List.cons_ne_nil first rest) hdigits.1
      have hpos : 0 < Nat.ofDigitChars 10 (first :: rest) 0 := by
        refine Nat.pos_of_ne_zero fun hvalue => hhead ?_
        rw [hvalue, Nat.toDigits_zero] at ih
        rw [← ih]
        rfl
      rw [← Nat.toDigits_append_toDigits (by decide) hpos hlt, ih, Nat.toDigits_of_lt_base hlt,
        hchar]

end Decimal

namespace Ip

-- ---------------------------------------------------------------------------
-- IPv4
-- ---------------------------------------------------------------------------

/-- Four numbers up to 255 in decimal, with points between them. -/
def IsV4Text (cs : List Char) : Prop :=
  ∃ octets : List Nat, octets.length = 4 ∧ (∀ n ∈ octets, n ≤ 255) ∧
    cs = ['.'].intercalate (octets.map (Nat.toDigits 10))

theorem isOctet_toDigits : ∀ n ≤ 255, isOctet (Nat.toDigits 10 n) = true := by decide +kernel

theorem isOctet_iff : isOctet cs = true ↔ ∃ n ≤ 255, Nat.toDigits 10 n = cs := by
  constructor
  · intro h
    simp only [isOctet, Bool.and_eq_true, Bool.or_eq_true, decide_eq_true_eq, beq_iff_eq,
      bne_iff_ne, Decimal.isDigits_iff, Decimal.digitsValue_eq] at h
    obtain ⟨⟨⟨hdigits, -⟩, hzero⟩, hle⟩ := h
    exact ⟨_, hle, Decimal.toDigits_ofDigitChars hdigits hzero⟩
  · rintro ⟨n, hn, rfl⟩
    exact isOctet_toDigits n hn

theorem octets_iff {parts : List (List Char)} : (∀ part ∈ parts, isOctet part = true) ↔
    ∃ octets : List Nat, (∀ n ∈ octets, n ≤ 255) ∧ octets.map (Nat.toDigits 10) = parts := by
  induction parts with
  | nil => simp
  | cons part rest ih =>
    rw [List.forall_mem_cons, ih, isOctet_iff]
    constructor
    · rintro ⟨⟨n, hn, rfl⟩, octets, hoctets, rfl⟩
      exact ⟨n :: octets, List.forall_mem_cons.mpr ⟨hn, hoctets⟩, rfl⟩
    · rintro ⟨octets, hoctets, hparts⟩
      obtain ⟨n, octets, rfl, hn, hrest⟩ := List.map_eq_cons_iff.mp hparts
      rw [List.forall_mem_cons] at hoctets
      exact ⟨⟨n, hoctets.1, hn⟩, octets, hoctets.2, hrest⟩

theorem isV4_iff : isV4 cs = true ↔ IsV4Text cs := by
  rw [isV4, Bool.and_eq_true, beq_iff_eq, List.all_eq_true, octets_iff]
  constructor
  · rintro ⟨hlength, octets, hoctets, hparts⟩
    refine ⟨octets, ?_, hoctets, ?_⟩
    · rw [← hlength, ← hparts, List.length_map]
    · rw [hparts]
      exact (Text.splitOn_eq_iff.mp rfl).1
  · rintro ⟨octets, hlength, hoctets, rfl⟩
    have hsplit : Text.splitOn '.' (['.'].intercalate (octets.map (Nat.toDigits 10))) =
        octets.map (Nat.toDigits 10) := by
      refine Text.splitOn_eq_iff.mpr ⟨rfl, ?_, List.forall_mem_map.mpr fun n _ hpoint => ?_⟩
      · rintro hnil
        rw [List.map_eq_nil_iff.mp hnil] at hlength
        cases hlength
      · exact absurd ((Decimal.isDigits_toDigits n).2 '.' hpoint) (by decide)
    rw [hsplit, List.length_map]
    exact ⟨hlength, octets, hoctets, rfl⟩

theorem no_colon_of_isV4 (h : isV4 cs = true) : ':' ∉ cs := by
  rw [isV4, Bool.and_eq_true, List.all_eq_true] at h
  obtain ⟨-, hoctets⟩ := h
  intro hcolon
  obtain ⟨part, hpart, hcolon⟩ : ∃ part ∈ Text.splitOn '.' cs, ':' ∈ part :=
    Text.exists_mem_splitOn_iff.mpr ⟨hcolon, by decide⟩
  have hoctet := hoctets part hpart
  simp only [isOctet, Bool.and_eq_true, Decimal.isDigits_iff] at hoctet
  exact absurd (hoctet.1.1.1.2 ':' hcolon) (by decide)

-- ---------------------------------------------------------------------------
-- Groups of an IPv6 address
-- ---------------------------------------------------------------------------

/-- One to four hexadecimal digits. -/
def IsGroupText (cs : List Char) : Prop :=
  cs ≠ [] ∧ cs.length ≤ 4 ∧ ∀ c ∈ cs, Text.isHexDigit c = true

/-- The number of groups that the parts stand for, one each. The last part may be an IPv4 address
where one is allowed, and stands for two. -/
inductive AreGroups (v4Last : Bool) : List (List Char) → Nat → Prop
  | nil : AreGroups v4Last [] 0
  | cons (h : IsGroupText part) (hrest : AreGroups v4Last rest n) :
      AreGroups v4Last (part :: rest) (n + 1)
  | v4 (hlast : v4Last = true) (h : IsV4Text part) : AreGroups v4Last [part] 2

theorem isGroup_iff : isGroup cs = true ↔ IsGroupText cs := by
  simp only [isGroup, Bool.and_eq_true, Bool.not_eq_true', List.isEmpty_eq_false_iff,
    decide_eq_true_eq, List.all_eq_true, IsGroupText, and_assoc]

theorem point_mem_of_isV4 (h : isV4 cs = true) : '.' ∈ cs := by
  rw [isV4, Bool.and_eq_true, beq_iff_eq] at h
  exact Text.two_le_length_splitOn_iff.mp (by rw [h.1]; decide)

theorem not_isGroup_of_isV4 (h : isV4 cs = true) : isGroup cs = false := by
  rw [Bool.eq_false_iff, Ne, isGroup_iff]
  exact fun hgroup => absurd (hgroup.2.2 '.' (point_mem_of_isV4 h)) (by decide)

theorem AreGroups.part (h : AreGroups v4Last parts n) : ∀ part ∈ parts, part ≠ [] ∧ ':' ∉ part := by
  induction h with
  | nil => nofun
  | cons h _ ih =>
    refine List.forall_mem_cons.mpr ⟨⟨h.1, fun hcolon => ?_⟩, ih⟩
    exact absurd (h.2.2 ':' hcolon) (by decide)
  | v4 _ h =>
    rw [← isV4_iff] at h
    exact List.forall_mem_singleton.mpr
      ⟨List.ne_nil_of_mem (point_mem_of_isV4 h), no_colon_of_isV4 h⟩

theorem groupCount?_eq_some_iff : groupCount? v4Last parts = some n ↔ AreGroups v4Last parts n := by
  constructor
  · intro h
    fun_induction groupCount? v4Last parts generalizing n with
    | case1 =>
      cases h
      exact .nil
    | case2 part hgroup =>
      cases h
      exact .cons (isGroup_iff.mp hgroup) .nil
    | case3 part _ hv4 =>
      cases h
      rw [Bool.and_eq_true] at hv4
      exact .v4 hv4.1 (isV4_iff.mp hv4.2)
    | case4 => cases h
    | case5 part rest _ hgroup ih =>
      obtain ⟨m, hm, rfl⟩ := Option.map_eq_some_iff.mp h
      exact .cons (isGroup_iff.mp hgroup) (ih hm)
    | case6 => cases h
  · intro h
    induction h with
    | nil => rfl
    | @cons part rest n h hrest ih =>
      cases rest with
      | nil =>
        cases hrest
        rw [groupCount?, if_pos (isGroup_iff.mpr h)]
      | cons next rest =>
        rw [groupCount?, if_pos (isGroup_iff.mpr h), ih, Option.map_some]
        exact List.cons_ne_nil next rest
    | v4 hlast h =>
      rw [← isV4_iff] at h
      rw [groupCount?, not_isGroup_of_isV4 h, hlast, h]
      rfl

-- ---------------------------------------------------------------------------
-- Stretches
-- ---------------------------------------------------------------------------

theorem intercalate_stretchParts (cs : List Char) : [':'].intercalate (stretchParts cs) = cs := by
  unfold stretchParts
  split
  · rename_i hempty
    rw [List.isEmpty_iff.mp hempty]
    rfl
  · exact (Text.splitOn_eq_iff.mp rfl).1.symm

theorem eq_append_of_splitCompressed? (h : splitCompressed? cs = some (before, after)) :
    cs = before ++ ':' :: ':' :: after := by
  fun_induction splitCompressed? cs generalizing before with
  | case1 rest =>
    cases h
    rfl
  | case2 c rest _ ih =>
    obtain ⟨halves, hrest, heq⟩ := Option.map_eq_some_iff.mp h
    cases heq
    exact congrArg (c :: ·) (ih hrest)
  | case3 => cases h

/-- The first of two colons is looked for from the left. -/
theorem splitCompressed?_cons (h : c ≠ ':' ∨ rest.head? ≠ some ':') :
    splitCompressed? (c :: rest) =
      (splitCompressed? rest).map fun halves => (c :: halves.1, halves.2) := by
  rw [splitCompressed?]
  rintro tail rfl rfl
  exact h.elim (absurd rfl) (absurd rfl)

theorem splitCompressed?_append (hpart : ':' ∉ part) (rest : List Char) :
    splitCompressed? (part ++ rest) =
      (splitCompressed? rest).map fun halves => (part ++ halves.1, halves.2) := by
  induction part with
  | nil => exact Option.map_id'.symm
  | cons c part ih =>
    rw [List.mem_cons, not_or] at hpart
    rw [List.cons_append, splitCompressed?_cons (.inl (Ne.symm hpart.1)), ih hpart.2,
      Option.map_map]
    rfl

section Joined

variable {parts : List (List Char)} (h : ∀ part ∈ parts, part ≠ [] ∧ ':' ∉ part)
include h

theorem stretchParts_joined : stretchParts ([':'].intercalate parts) = parts := by
  cases parts with
  | nil => rfl
  | cons part rest =>
    have hsplit : Text.splitOn ':' ([':'].intercalate (part :: rest)) = part :: rest :=
      Text.splitOn_eq_iff.mpr ⟨rfl, List.cons_ne_nil _ _, fun p hp => (h p hp).2⟩
    unfold stretchParts
    split
    · rename_i hempty
      rw [List.isEmpty_iff.mp hempty] at hsplit
      cases hsplit
      exact absurd rfl (h [] List.mem_cons_self).1
    · exact hsplit

/-- Parts joined with single colons have no two in a row, and none at their end. -/
theorem splitCompressed?_joined (rest : List Char) :
    splitCompressed? ([':'].intercalate parts ++ rest) =
      (splitCompressed? rest).map fun halves => ([':'].intercalate parts ++ halves.1, halves.2) := by
  induction parts with
  | nil => exact splitCompressed?_append List.not_mem_nil rest
  | cons part others ih =>
    obtain ⟨⟨-, hcolon⟩, hothers⟩ := List.forall_mem_cons.mp h
    cases others with
    | nil =>
      rw [List.intercalate_singleton]
      exact splitCompressed?_append hcolon rest
    | cons next others =>
      obtain ⟨⟨hne, hnext⟩, -⟩ := List.forall_mem_cons.mp hothers
      obtain ⟨c, next, rfl⟩ := List.exists_cons_of_ne_nil hne
      have hhead : ([':'].intercalate ((c :: next) :: others) ++ rest).head? ≠ some ':' := by
        have hc : c ≠ ':' := fun hc => hnext (hc ▸ List.mem_cons_self)
        cases others <;> simpa [List.intercalate_cons_cons] using hc
      rw [List.intercalate_cons_cons, List.append_assoc, List.append_assoc,
        splitCompressed?_append hcolon, List.singleton_append,
        splitCompressed?_cons (.inr hhead), ih hothers, Option.map_map, Option.map_map]
      simp [Function.comp_def]

end Joined

-- ---------------------------------------------------------------------------
-- IPv6
-- ---------------------------------------------------------------------------

/-- Eight groups with colons between them, or at most seven with two colons for the others. -/
inductive IsV6Text : List Char → Prop
  | full (h : AreGroups true parts 8) : IsV6Text ([':'].intercalate parts)
  | compressed (hbefore : AreGroups false before m) (hafter : AreGroups true after n)
      (h : m + n ≤ 7) :
      IsV6Text ([':'].intercalate before ++ ':' :: ':' :: [':'].intercalate after)

theorem isV6_iff : isV6 cs = true ↔ IsV6Text cs := by
  constructor
  · intro h
    unfold isV6 at h
    split at h
    · have hfull := IsV6Text.full (groupCount?_eq_some_iff.mp (beq_iff_eq.mp h))
      rwa [intercalate_stretchParts] at hfull
    · rename_i before after hsplit
      split at h
      · rename_i m n hm hn
        have hcompressed := IsV6Text.compressed (groupCount?_eq_some_iff.mp hm)
          (groupCount?_eq_some_iff.mp hn) (of_decide_eq_true h)
        rwa [intercalate_stretchParts, intercalate_stretchParts,
          ← eq_append_of_splitCompressed? hsplit] at hcompressed
      · cases h
  · intro h
    cases h with
    | @full parts h =>
      have hsplit : splitCompressed? ([':'].intercalate parts) = none := by
        have hjoined := splitCompressed?_joined h.part []
        rwa [List.append_nil] at hjoined
      rw [isV6, hsplit, stretchParts_joined h.part]
      exact beq_iff_eq.mpr (groupCount?_eq_some_iff.mpr h)
    | @compressed before m after n hbefore hafter h =>
      have hsplit := splitCompressed?_joined hbefore.part (':' :: ':' :: [':'].intercalate after)
      rw [splitCompressed?, Option.map_some, List.append_nil] at hsplit
      rw [isV6, hsplit]
      dsimp only
      rw [stretchParts_joined hbefore.part, stretchParts_joined hafter.part,
        groupCount?_eq_some_iff.mpr hbefore, groupCount?_eq_some_iff.mpr hafter]
      exact decide_eq_true h

theorem AreGroups.two_le (h : AreGroups v4Last parts n) (hn : 3 ≤ n) : 2 ≤ parts.length := by
  cases h with
  | nil => omega
  | cons _ hrest =>
    cases hrest with
    | nil => omega
    | cons | v4 => simp
  | v4 => omega

theorem colon_mem_of_isV6 (h : isV6 cs = true) : ':' ∈ cs := by
  rw [isV6_iff] at h
  cases h with
  | @full parts h =>
    have hsplit : Text.splitOn ':' ([':'].intercalate parts) = parts := by
      refine Text.splitOn_eq_iff.mpr ⟨rfl, ?_, fun part hpart => (h.part part hpart).2⟩
      rintro rfl
      cases h
    rw [← Text.two_le_length_splitOn_iff, hsplit]
    exact h.two_le (by decide)
  | compressed => simp

/-- A colon tells the two kinds of addresses apart. -/
theorem not_both (h4 : isV4 cs = true) (h6 : isV6 cs = true) : False :=
  no_colon_of_isV4 h4 (colon_mem_of_isV6 h6)

end Ip

end RecordSchema
