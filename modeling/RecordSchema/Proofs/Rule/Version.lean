import Mathlib.Data.List.Forall2
import RecordSchema.Proofs.Host.Ip
import RecordSchema.Rule.Library

/-!
# Versions of a rule

Two rules take a version as their first argument. Whichever way a version is written it selects
the same check, a number that only resembles a version is refused, and the checks of two versions
share no text. Which texts a version takes is given by the grammars of addresses and UUIDs
(`rules_select_versions`).
-/

namespace RecordSchema

-- ---------------------------------------------------------------------------
-- UUIDs
-- ---------------------------------------------------------------------------

namespace Notation

open Text

/-- Hexadecimal digits, as many as given. -/
def IsHexDigits (length : Nat) (ds : List Char) : Prop :=
  ds.length = length ∧ ∀ d ∈ ds, isHexDigit d = true

/-- Groups of 8, 4, 4, 4 and 12 hexadecimal digits with hyphens between. -/
def IsUuidText (cs : List Char) : Prop :=
  ∃ groups, List.Forall₂ IsHexDigits [8, 4, 4, 4, 12] groups ∧ cs = ['-'].intercalate groups

theorem isHexGroup_iff : isHexGroup length ds = true ↔ IsHexDigits length ds := by
  rw [isHexGroup, Bool.and_eq_true, beq_iff_eq, List.all_eq_true, IsHexDigits]

theorem areHexGroups_iff :
    areHexGroups lengths groups = true ↔ List.Forall₂ IsHexDigits lengths groups := by
  induction lengths generalizing groups with
  | nil => cases groups <;> simp [areHexGroups]
  | cons length lengths ih =>
    cases groups with
    | nil => simp [areHexGroups]
    | cons ds groups =>
      rw [areHexGroups, Bool.and_eq_true, isHexGroup_iff, ih, List.forall₂_cons]

theorem no_mark (hmark : isHexDigit mark = false) (h : List.Forall₂ IsHexDigits lengths groups) :
    ∀ ds ∈ groups, mark ∉ ds := by
  induction h with
  | nil => nofun
  | cons hds _ ih =>
    refine List.forall_mem_cons.mpr ⟨fun hmem => ?_, ih⟩
    rw [hds.2 mark hmem] at hmark
    cases hmark

/-- A text is the groups that it is split into, since no group holds the mark. -/
theorem areHexGroups_splitOn_iff (hmark : isHexDigit mark = false) (hlengths : lengths ≠ []) :
    areHexGroups lengths (splitOn mark cs) = true ↔
      ∃ groups, List.Forall₂ IsHexDigits lengths groups ∧ cs = [mark].intercalate groups := by
  rw [areHexGroups_iff]
  constructor
  · intro h
    exact ⟨_, h, (splitOn_eq_iff.mp rfl).1⟩
  · rintro ⟨groups, h, hcs⟩
    have hne : groups ≠ [] := by
      rintro rfl
      exact hlengths (List.forall₂_nil_right_iff.mp h)
    rwa [splitOn_eq_iff.mpr ⟨hcs, hne, no_mark hmark h⟩]

theorem isUuidShape_iff : isUuidShape cs = true ↔ IsUuidText cs :=
  areHexGroups_splitOn_iff (by decide) (List.cons_ne_nil _ _)

theorem isUuid_none : isUuid none cs = true ↔ IsUuidText cs := by
  rw [isUuid, Bool.and_true, isUuidShape_iff]

theorem isUuid_some : isUuid (some v) cs = true ↔ IsUuidText cs ∧
    cs[versionIndex]? = some (versionDigit v) ∧
    (v = 4 ∨ v = 5 → ∃ c ∈ cs[variantIndex]?, c ∈ ['8', '9', 'a', 'b', 'A', 'B']) := by
  simp only [isUuid, Bool.and_eq_true, isUuidShape_iff, beq_iff_eq, Bool.or_eq_true,
    Bool.not_eq_true', Bool.or_eq_false_iff, beq_eq_false_iff_ne, Option.any_eq_true,
    isVariantDigit, List.contains_iff_mem, Decidable.imp_iff_not_or, not_or]
  rfl

end Notation

-- ---------------------------------------------------------------------------
-- Arguments
-- ---------------------------------------------------------------------------

namespace Decimal

/-- A plus sign or none, and digits, leading zeros included. -/
inductive IsUnsigned : List Char → Nat → Prop
  | plain (hds : IsDigits ds) : IsUnsigned ds (Nat.ofDigitChars 10 ds 0)
  | plus (hds : IsDigits ds) : IsUnsigned ('+' :: ds) (Nat.ofDigitChars 10 ds 0)

theorem IsUnsigned.unique (hm : IsUnsigned cs m) (hn : IsUnsigned cs n) : m = n := by
  have hplus : ∀ {ds}, ¬ IsDigits ('+' :: ds) := fun hds =>
    absurd (hds.2 '+' List.mem_cons_self) (by decide)
  cases hm with
  | plain hds =>
    cases hn with
    | plain => rfl
    | plus => exact absurd hds hplus
  | plus =>
    cases hn with
    | plain hds => exact absurd hds hplus
    | plus => rfl

/-- No numeral starts like `all`. -/
theorem IsUnsigned.not_all (h : IsUnsigned cs n) : cs.map Char.toLower ≠ ['a', 'l', 'l'] := by
  intro hall
  cases h with
  | plain hds =>
    obtain ⟨d, rest, rfl⟩ := List.exists_cons_of_ne_nil hds.1
    have hd : d.isDigit = true := hds.2 d List.mem_cons_self
    have ha : d.toLower = 'a' := (List.cons.inj hall).1
    rw [toLower_of_isDigit hd] at ha
    rw [ha] at hd
    cases hd
  | plus => exact absurd (List.cons.inj hall).1 (by decide)

end Decimal

namespace Library

open Decimal

/-- The version that the first argument asks for; none for all of them. -/
inductive Asks : List Json → Option Nat → Prop
  | absent : Asks [] none
  | null : Asks (.null :: rest) none
  | all (h : s.toList.map Char.toLower = ['a', 'l', 'l']) : Asks (.string s :: rest) none
  | number {v : Nat} (hrange : Int64Or n) (hn : n = v) :
      Asks (.number (.integer n hrange) :: rest) (some v)
  | text (h : IsUnsigned s.toList v) (hv : v < 2 ^ 64) : Asks (.string s :: rest) (some v)

/-- Arguments that ask for no version, however close they come to one. -/
inductive NoVersion (allowed : List Nat) : Json → Prop
  | wrapped {v : Nat} (hrange : Int64Or n) (hv : v ∈ allowed) (hmod : n % 256 = v) (hne : n ≠ v) :
      NoVersion allowed (.number (.integer n hrange))
  | wrappedText (h : IsUnsigned s.toList n) (hv : v ∈ allowed) (hmod : n % 256 = v) (hne : n ≠ v) :
      NoVersion allowed (.string s)
  | negative (hrange : Int64Or n) (hn : n < 0) : NoVersion allowed (.number (.integer n hrange))
  | float (x : Binary64.Finite) : NoVersion allowed (.number (.float x))
  | bool (b : Bool) : NoVersion allowed (.bool b)
  | array (items : List Json) : NoVersion allowed (.array items)
  | object (fields : List (String × Json)) : NoVersion allowed (.object fields)

theorem unsignedText?_eq_some_iff :
    unsignedText? s = some n ↔ IsUnsigned s.toList n ∧ n < 2 ^ 64 := by
  unfold unsignedText?
  generalize s.toList = cs
  dsimp only
  rw [Option.ite_none_right_eq_some, isDigits_iff, digitsValue_eq, Option.some.injEq]
  constructor
  · split
    · rintro ⟨⟨hds, hlt⟩, rfl⟩
      exact ⟨.plus hds, hlt⟩
    · rintro ⟨⟨hds, hlt⟩, rfl⟩
      exact ⟨.plain hds, hlt⟩
  · rintro ⟨h, hlt⟩
    cases h with
    | plain hds =>
      split
      · exact absurd (hds.2 '+' List.mem_cons_self) (by decide)
      · exact ⟨⟨hds, hlt⟩, rfl⟩
    | plus hds => exact ⟨⟨hds, hlt⟩, rfl⟩

theorem asks_some_iff : Asks (j :: rest) (some v) ↔ versionNumber? j = some v := by
  constructor
  · intro h
    cases h with
    | number hrange hn =>
      subst hn
      simp [versionNumber?, Number.toUnsigned?]
    | text h hv => exact unsignedText?_eq_some_iff.mpr ⟨h, hv⟩
  · intro h
    cases j with
    | number n =>
      cases n with
      | integer n hrange =>
        obtain ⟨hn, hv⟩ := Option.ite_none_right_eq_some.mp h
        exact .number hrange (by rw [← Option.some.inj hv, Int.toNat_of_nonneg hn])
      | float => cases h
    | string s =>
      obtain ⟨h, hv⟩ := unsignedText?_eq_some_iff.mp h
      exact .text h hv
    | _ => cases h

theorem Asks.some_unique (hv : Asks args (some v)) (hw : Asks args (some w)) : v = w := by
  cases args with
  | nil => cases hv
  | cons j rest => exact Option.some.inj ((asks_some_iff.mp hv).symm.trans (asks_some_iff.mp hw))

theorem Asks.not_none (h : Asks args (some v)) : ¬ Asks args none := by
  intro hnone
  cases h with
  | number => cases hnone
  | text h _ =>
    cases hnone with
    | all hall => exact h.not_all hall

/-- The first argument asks for one thing only. -/
theorem Asks.unique (hv : Asks args version) (hw : Asks args other) : version = other := by
  cases version with
  | none =>
    cases other with
    | none => rfl
    | some w => exact absurd hv hw.not_none
  | some v =>
    cases other with
    | none => exact absurd hw hv.not_none
    | some w => rw [hv.some_unique hw]

section Versions

variable {rule name : String} {allowed : List Nat}

theorem versionArg_of_asks_none (h : Asks args none) : versionArg rule allowed args = .ok none := by
  cases h with
  | absent | null => rfl
  | all h => exact if_pos (beq_iff_eq.mpr h)

theorem versionArg_of_not_asks_none (h : ¬ Asks (j :: rest) none) :
    versionArg rule allowed (j :: rest) =
      match ((versionNumber? j).bind byte?).filter allowed.contains with
      | some v => .ok (some v)
      | none => refuse rule (.version allowed) := by
  cases j with
  | null => exact absurd .null h
  | string s => exact if_neg fun hall => h (.all (beq_iff_eq.mp hall))
  | _ => rfl

theorem chosen_iff (hbytes : ∀ v ∈ allowed, v < 0x100) :
    ((versionNumber? j).bind byte?).filter allowed.contains = some v ↔
      versionNumber? j = some v ∧ v ∈ allowed := by
  simp only [Option.filter_eq_some_iff, Option.bind_eq_some_iff, byte?,
    Option.ite_none_right_eq_some, Option.some.injEq, List.contains_iff_mem]
  constructor
  · rintro ⟨⟨n, hn, -, rfl⟩, hv⟩
    exact ⟨hn, hv⟩
  · rintro ⟨hn, hv⟩
    exact ⟨⟨v, hn, hbytes v hv, rfl⟩, hv⟩

theorem versionArg_of_asks (hbytes : ∀ v ∈ allowed, v < 0x100) (h : Asks args version)
    (hallowed : ∀ v ∈ version, v ∈ allowed) : versionArg rule allowed args = .ok version := by
  cases version with
  | none => exact versionArg_of_asks_none h
  | some v =>
    cases args with
    | nil => cases h
    | cons j rest =>
      rw [versionArg_of_not_asks_none h.not_none,
        (chosen_iff hbytes).mpr ⟨asks_some_iff.mp h, hallowed v rfl⟩]

theorem versionArg_refused (hbytes : ∀ v ∈ allowed, v < 0x100)
    (h : ¬ ∃ version, Asks args version ∧ ∀ v ∈ version, v ∈ allowed) :
    versionArg rule allowed args = .error (.arguments rule (.version allowed)) := by
  have hnone : ¬ Asks args none := fun hnone => h ⟨none, hnone, nofun⟩
  cases args with
  | nil => exact absurd .absent hnone
  | cons j rest =>
    rw [versionArg_of_not_asks_none hnone]
    cases hchosen : ((versionNumber? j).bind byte?).filter allowed.contains with
    | none => rfl
    | some v =>
      obtain ⟨hv, hmem⟩ := (chosen_iff hbytes).mp hchosen
      exact absurd ⟨some v, asks_some_iff.mpr hv, fun _ hw => Option.some.inj hw ▸ hmem⟩ h

theorem NoVersion.not_allowed (hbytes : ∀ v ∈ allowed, v < 0x100) (h : NoVersion allowed j)
    (hasks : Asks (j :: rest) version) : ¬ ∀ v ∈ version, v ∈ allowed := by
  intro hallowed
  cases h with
  | wrapped _ hv hmod hne =>
    cases hasks with
    | number _ hn =>
      have hlt := hbytes _ (hallowed _ rfl)
      omega
  | wrappedText h hv hmod hne =>
    cases hasks with
    | all hall => exact h.not_all hall
    | text htext =>
      have hlt := hbytes _ (hallowed _ rfl)
      have hn := h.unique htext
      omega
  | negative _ hn =>
    cases hasks
    omega
  | _ => cases hasks

-- ---------------------------------------------------------------------------
-- Rules
-- ---------------------------------------------------------------------------

/-- A rule whose first argument selects among the versions that it allows. -/
structure SelectsVersion (name : String) (allowed : List Nat) (make : Option Nat → Check) :
    Prop where
  resolves : ∀ args check, resolve name args = .ok check ↔
    ∃ version, Asks args version ∧ (∀ v ∈ version, v ∈ allowed) ∧ check = make version
  refuses : ∀ args, (¬ ∃ version, Asks args version ∧ ∀ v ∈ version, v ∈ allowed) →
    resolve name args = .error (.arguments name (.version allowed))
  no_version : ∀ j rest, NoVersion allowed j →
    resolve name (j :: rest) = .error (.arguments name (.version allowed))
  spelling : ∀ args args' version, Asks args version → Asks args' version →
    resolve name args = resolve name args'
  narrows : ∀ v ∈ allowed, ∀ s,
    (make (some v)).accepts s = true → (make none).accepts s = true
  disjoint : ∀ v ∈ allowed, ∀ w ∈ allowed, ∀ s,
    (make (some v)).accepts s = true → (make (some w)).accepts s = true → v = w

theorem selectsVersion {make : Option Nat → Check} (hbytes : ∀ v ∈ allowed, v < 0x100)
    (hresolve : ∀ args, resolve name args = (versionArg name allowed args).map make)
    (hnarrows : ∀ v ∈ allowed, ∀ s,
      (make (some v)).accepts s = true → (make none).accepts s = true)
    (hdisjoint : ∀ v ∈ allowed, ∀ w ∈ allowed, ∀ s,
      (make (some v)).accepts s = true → (make (some w)).accepts s = true → v = w) :
    SelectsVersion name allowed make := by
  have hok : ∀ {args version}, Asks args version → (∀ v ∈ version, v ∈ allowed) →
      resolve name args = .ok (make version) := fun h hallowed => by
    rw [hresolve, versionArg_of_asks hbytes h hallowed]
    rfl
  have hrefuses : ∀ args, (¬ ∃ version, Asks args version ∧ ∀ v ∈ version, v ∈ allowed) →
      resolve name args = .error (.arguments name (.version allowed)) := fun args h => by
    rw [hresolve, versionArg_refused hbytes h]
    rfl
  constructor
  case refuses => exact hrefuses
  case no_version =>
    exact fun j rest h => hrefuses _ fun ⟨version, hasks, hallowed⟩ =>
      h.not_allowed hbytes hasks hallowed
  case narrows => exact hnarrows
  case disjoint => exact hdisjoint
  case resolves =>
    intro args check
    constructor
    · intro hcheck
      by_cases h : ∃ version, Asks args version ∧ ∀ v ∈ version, v ∈ allowed
      · obtain ⟨version, hasks, hallowed⟩ := h
        rw [hok hasks hallowed] at hcheck
        exact ⟨version, hasks, hallowed, (Except.ok.inj hcheck).symm⟩
      · rw [hrefuses args h] at hcheck
        cases hcheck
    · rintro ⟨version, hasks, hallowed, rfl⟩
      exact hok hasks hallowed
  case spelling =>
    intro args args' version hasks hasks'
    by_cases hallowed : ∀ v ∈ version, v ∈ allowed
    · rw [hok hasks hallowed, hok hasks' hallowed]
    · have hnone : ∀ {args}, Asks args version →
          ¬ ∃ other, Asks args other ∧ ∀ v ∈ other, v ∈ allowed :=
        fun hasks ⟨_, h, hother⟩ => hallowed (hasks.unique h ▸ hother)
      rw [hrefuses args (hnone hasks), hrefuses args' (hnone hasks')]

end Versions

theorem ip_selectsVersion : SelectsVersion "isIP" [4, 6] .ip := by
  refine selectsVersion (by decide) (fun args => rfl) ?_ ?_
  · simp only [List.forall_mem_cons]
    exact ⟨fun s h => Bool.or_eq_true_iff.mpr (.inl h),
      fun s h => Bool.or_eq_true_iff.mpr (.inr h), nofun⟩
  · intro v hv w hw s h h'
    simp only [List.mem_cons, List.not_mem_nil, or_false] at hv hw
    rcases hv with rfl | rfl <;> rcases hw with rfl | rfl
    · rfl
    · exact (Ip.not_both h h').elim
    · exact (Ip.not_both h' h).elim
    · rfl

theorem uuid_some_iff (hv : v ∈ [1, 2, 3, 4, 5]) (s : String) :
    (Check.uuid (some v)).accepts s = true ↔
      Notation.IsUuidText s.toList ∧ s.toList[14]? = some (Nat.digitChar v) ∧
      (v = 4 ∨ v = 5 → ∃ c ∈ s.toList[19]?, c ∈ ['8', '9', 'a', 'b', 'A', 'B']) := by
  have hdigit : ∀ v ∈ [1, 2, 3, 4, 5], Notation.versionDigit v = Nat.digitChar v := by decide
  rw [← hdigit v hv]
  exact Notation.isUuid_some

theorem uuid_selectsVersion : SelectsVersion "isUUID" [1, 2, 3, 4, 5] .uuid := by
  refine selectsVersion (by decide) (fun args => rfl) ?_ ?_
  · intro v hv s h
    exact Notation.isUuid_none.mpr ((uuid_some_iff hv s).mp h).1
  · intro v hv w hw s h h'
    have hdigits : ∀ v ∈ [1, 2, 3, 4, 5], ∀ w ∈ [1, 2, 3, 4, 5],
        Nat.digitChar v = Nat.digitChar w → v = w := by decide
    obtain ⟨-, hv', -⟩ := (uuid_some_iff hv s).mp h
    obtain ⟨-, hw', -⟩ := (uuid_some_iff hw s).mp h'
    exact hdigits v hv w hw (Option.some.inj (hv'.symm.trans hw'))

theorem rules_select_versions :
    SelectsVersion "isIP" [4, 6] .ip ∧ SelectsVersion "isUUID" [1, 2, 3, 4, 5] .uuid ∧
    (∀ s, (Check.ip none).accepts s = true ↔
      (Check.ip (some 4)).accepts s = true ∨ (Check.ip (some 6)).accepts s = true) ∧
    (∀ s, (Check.ip (some 4)).accepts s = Ip.isV4 s.toList ∧
      (Ip.isV4 s.toList = true ↔ Ip.IsV4Text s.toList) ∧
      (Check.ip (some 6)).accepts s = Ip.isV6 s.toList ∧
      (Ip.isV6 s.toList = true ↔ Ip.IsV6Text s.toList)) ∧
    (∀ v ∈ [1, 2, 3, 4, 5], ∀ s, (Check.uuid (some v)).accepts s = true ↔
      Notation.IsUuidText s.toList ∧ s.toList[14]? = some (Nat.digitChar v) ∧
      (v = 4 ∨ v = 5 → ∃ c ∈ s.toList[19]?, c ∈ ['8', '9', 'a', 'b', 'A', 'B'])) ∧
    (∀ s, (Check.uuid none).accepts s = true ↔ Notation.IsUuidText s.toList) := by
  refine ⟨ip_selectsVersion, uuid_selectsVersion, fun s => ?_,
    fun s => ⟨rfl, Ip.isV4_iff, rfl, Ip.isV6_iff⟩, fun v hv => uuid_some_iff hv,
    fun s => Notation.isUuid_none⟩
  exact Bool.or_eq_true_iff

/-- A byte would hold 260 as 4. -/
example : resolve "isIP" [.number (.integer 260 (by decide))] =
    .error (.arguments "isIP" (.version [4, 6])) := rfl

end Library

end RecordSchema
