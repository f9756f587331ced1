import RecordSchema.Unicode.CharSet

/-!
# Membership in character sets

Sets are searched by halving, which finds every range only when the ranges ascend and stay
apart. Sorting and joining make any list of ranges so, and neither loses nor adds a code point:
a set holds exactly the code points of the ranges that it was made from
(`Ordered.containsCode_iff`, `holds_ofRanges`). Ranges so made are the only ones of their kind with
these code points, so two such sets that hold the same are equal (`Normal.ext`).
-/

namespace RecordSchema

namespace Unicode

namespace CharSet

/-- The code point lies in the range. -/
def Covers (r : Nat × Nat) (n : Nat) : Prop := r.1 ≤ n ∧ n ≤ r.2

/-- The code point lies in one of the ranges. -/
def Reaches (ranges : List (Nat × Nat)) (n : Nat) : Prop := ∃ r ∈ ranges, Covers r n

theorem not_reaches_nil : ¬ Reaches [] n := by
  simp [Reaches]

theorem reaches_cons : Reaches (r :: rs) n ↔ Covers r n ∨ Reaches rs n := by
  simp [Reaches]

theorem reaches_append : Reaches (rs ++ ss) n ↔ Reaches rs n ∨ Reaches ss n := by
  simp [Reaches, or_and_right, exists_or]

theorem reaches_perm (h : rs.Perm ss) : Reaches rs n ↔ Reaches ss n := by
  simp only [Reaches, h.mem_iff]

/-- One range begins no later than another. -/
abbrev Ascends (r s : Nat × Nat) : Prop := r.1 ≤ s.1

/-- One range ends before another begins. -/
def Precedes (r s : Nat × Nat) : Prop := r.1 ≤ s.1 ∧ r.2 < s.1

-- ---------------------------------------------------------------------------
-- Searching
-- ---------------------------------------------------------------------------

section Search

variable {ranges : Array (Nat × Nat)} (hranges : ranges.toList.Pairwise Precedes)
include hranges

theorem precedes_of_lt {i j : Nat} (hij : i < j) (hi : ranges[i]? = some r)
    (hj : ranges[j]? = some s) : Precedes r s := by
  obtain ⟨hisize, rfl⟩ := Array.getElem?_eq_some_iff.mp hi
  obtain ⟨hjsize, rfl⟩ := Array.getElem?_eq_some_iff.mp hj
  exact List.pairwise_iff_getElem.mp hranges i j hisize hjsize hij

/-- What lies before the start of a range is in none of the ranges from there on. -/
theorem lt_of_lt_start {i mid : Nat} (hs : ranges[mid]? = some s) (hn : n < s.1)
    (hr : ranges[i]? = some r) (hcovers : Covers r n) : i < mid := by
  refine Nat.lt_of_not_le fun hle => ?_
  obtain ⟨hstart, -⟩ := hcovers
  rcases Nat.lt_or_eq_of_le hle with hlt | rfl
  · exact Nat.not_le.mpr hn (Nat.le_trans (precedes_of_lt hranges hlt hs hr).1 hstart)
  · obtain rfl : s = r := Option.some.inj (hs.symm.trans hr)
    exact Nat.not_le.mpr hn hstart

/-- What lies behind a range is in none of the ranges up to there. -/
theorem lt_of_end_lt {i mid : Nat} (hs : ranges[mid]? = some s) (hstart : s.1 ≤ n) (hn : s.2 < n)
    (hr : ranges[i]? = some r) (hcovers : Covers r n) : mid < i := by
  refine Nat.lt_of_not_le fun hle => ?_
  obtain ⟨-, hend⟩ := hcovers
  rcases Nat.lt_or_eq_of_le hle with hlt | rfl
  · have hbefore : r.2 < s.1 := (precedes_of_lt hranges hlt hr hs).2
    omega
  · obtain rfl : r = s := Option.some.inj (hr.symm.trans hs)
    exact Nat.not_le.mpr hn hend

/-- Halving finds what lies between two places, when there are tries enough. -/
theorem searchFrom_eq_true_iff (hhigh : high ≤ ranges.size) (htries : high - low < tries) :
    searchFrom ranges n tries low high = true ↔
      ∃ i r, low ≤ i ∧ i < high ∧ ranges[i]? = some r ∧ Covers r n := by
  induction tries generalizing low high with
  | zero => omega
  | succ tries ih =>
    rw [searchFrom]
    split
    case isFalse hlow =>
      exact iff_of_false Bool.false_ne_true fun ⟨i, r, hi, hi', _⟩ =>
        hlow (Nat.lt_of_le_of_lt hi hi')
    case isTrue hlow =>
      extract_lets mid
      have hmid : low ≤ mid ∧ mid < high := by
        dsimp only [mid]
        omega
      obtain ⟨s, hs⟩ : ∃ s, ranges[mid]? = some s :=
        ⟨_, Array.getElem?_eq_getElem (Nat.lt_of_lt_of_le hmid.2 hhigh)⟩
      rw [hs]
      dsimp only
      by_cases hbelow : n < s.1
      · rw [if_pos hbelow, ih (by omega) (by omega)]
        constructor
        · rintro ⟨i, r, hi, hi', hr, hcovers⟩
          exact ⟨i, r, hi, Nat.lt_trans hi' hmid.2, hr, hcovers⟩
        · rintro ⟨i, r, hi, -, hr, hcovers⟩
          exact ⟨i, r, hi, lt_of_lt_start hranges hs hbelow hr hcovers, hr, hcovers⟩
      · rw [if_neg hbelow]
        by_cases habove : s.2 < n
        · rw [if_pos habove, ih hhigh (by omega)]
          constructor
          · rintro ⟨i, r, hi, hi', hr, hcovers⟩
            exact ⟨i, r, by omega, hi', hr, hcovers⟩
          · rintro ⟨i, r, -, hi', hr, hcovers⟩
            exact ⟨i, r, lt_of_end_lt hranges hs (Nat.le_of_not_lt hbelow) habove hr hcovers, hi',
              hr, hcovers⟩
        · rw [if_neg habove]
          exact iff_of_true rfl ⟨mid, s, hmid.1, hmid.2, hs, Nat.le_of_not_lt hbelow,
            Nat.le_of_not_lt habove⟩

end Search

/-- The ranges of the set are in an order in which halving finds them. -/
def Ordered (s : CharSet) : Prop := s.ranges.toList.Pairwise Precedes

/-- The code point lies in a range of the set. -/
def Holds (s : CharSet) (n : Nat) : Prop := Reaches s.ranges.toList n

theorem Ordered.containsCode_iff {s : CharSet} (hs : s.Ordered) :
    s.containsCode n = true ↔ s.Holds n := by
  rw [containsCode, searchFrom_eq_true_iff hs (Nat.le_refl _) (by omega)]
  constructor
  · rintro ⟨i, r, -, -, hr, hcovers⟩
    exact ⟨r, Array.mem_toList_iff.mpr (Array.mem_of_getElem? hr), hcovers⟩
  · rintro ⟨r, hmem, hcovers⟩
    obtain ⟨i, hi, rfl⟩ := List.mem_iff_getElem.mp hmem
    exact ⟨i, _, Nat.zero_le i, hi, Array.getElem?_eq_getElem hi, hcovers⟩

-- ---------------------------------------------------------------------------
-- Joining
-- ---------------------------------------------------------------------------

/-- A longer first range takes the place of two. -/
theorem Ascends.join (hrs : ((low, high) :: s :: rest).Pairwise Ascends) (joined : Nat) :
    ((low, joined) :: rest).Pairwise Ascends := by
  obtain ⟨hlow, hrest⟩ := List.pairwise_cons.mp hrs
  exact List.pairwise_cons.mpr ⟨fun r hr => hlow r (List.mem_cons_of_mem _ hr), hrest.of_cons⟩

theorem le_of_mem_joinFrom (hrs : ((low, high) :: rs).Pairwise Ascends) :
    ∀ r ∈ joinFrom low high rs, low ≤ r.1 := by
  induction rs generalizing low high with
  | nil => simp [joinFrom]
  | cons s rest ih =>
    obtain ⟨hlow, hrest⟩ := List.pairwise_cons.mp hrs
    rw [joinFrom]
    split
    · exact ih (Ascends.join hrs _)
    · intro r hr
      rcases List.mem_cons.mp hr with rfl | hr
      · exact Nat.le_refl _
      · exact Nat.le_trans (hlow s List.mem_cons_self) (ih hrest r hr)

theorem joinFrom_precedes (hrs : ((low, high) :: rs).Pairwise Ascends) :
    (joinFrom low high rs).Pairwise Precedes := by
  induction rs generalizing low high with
  | nil => exact List.pairwise_singleton _ _
  | cons s rest ih =>
    obtain ⟨hlow, hrest⟩ := List.pairwise_cons.mp hrs
    rw [joinFrom]
    split
    · exact ih (Ascends.join hrs _)
    · refine List.pairwise_cons.mpr ⟨fun r hr => ?_, ih hrest⟩
      have hs : low ≤ s.1 := hlow s List.mem_cons_self
      have hr : s.1 ≤ r.1 := le_of_mem_joinFrom hrest r hr
      exact ⟨by dsimp only; omega, by dsimp only; omega⟩

theorem reaches_joinFrom (hrs : ((low, high) :: rs).Pairwise Ascends) :
    Reaches (joinFrom low high rs) n ↔ Reaches ((low, high) :: rs) n := by
  induction rs generalizing low high with
  | nil => rfl
  | cons s rest ih =>
    obtain ⟨hlow, hrest⟩ := List.pairwise_cons.mp hrs
    have hs : low ≤ s.1 := hlow s List.mem_cons_self
    rw [joinFrom]
    split
    · have hjoined : Covers (low, max high s.2) n ↔ Covers (low, high) n ∨ Covers s n := by
        simp only [Covers]
        omega
      rw [ih (Ascends.join hrs _), reaches_cons, hjoined, or_assoc, reaches_cons, reaches_cons]
    · rw [reaches_cons, ih hrest]
      exact reaches_cons.symm

-- ---------------------------------------------------------------------------
-- Building
-- ---------------------------------------------------------------------------

theorem pairwise_mergeSort_ascends (ranges : List (Nat × Nat)) :
    (ranges.mergeSort fun r s => r.1 ≤ s.1).Pairwise Ascends := by
  refine (List.pairwise_mergeSort ?_ ?_ ranges).imp of_decide_eq_true
  · intro r s t hrs hst
    exact decide_eq_true (Nat.le_trans (of_decide_eq_true hrs) (of_decide_eq_true hst))
  · intro r s
    rw [Bool.or_eq_true, decide_eq_true_iff, decide_eq_true_iff]
    exact Nat.le_total _ _

theorem ordered_ofRanges (ranges : List (Nat × Nat)) : (ofRanges ranges).Ordered := by
  have hsorted := pairwise_mergeSort_ascends ranges
  unfold ofRanges
  split
  · exact List.Pairwise.nil
  · rename_i hsort
    rw [hsort] at hsorted
    exact joinFrom_precedes hsorted

theorem holds_ofRanges {ranges : List (Nat × Nat)} :
    (ofRanges ranges).Holds n ↔ Reaches ranges n := by
  have hsorted := pairwise_mergeSort_ascends ranges
  rw [← reaches_perm (List.mergeSort_perm ranges fun r s => r.1 ≤ s.1)]
  unfold ofRanges
  split
  · rename_i hsort
    rw [hsort]
    rfl
  · rename_i hsort
    rw [hsort] at hsorted ⊢
    exact reaches_joinFrom hsorted

theorem holds_union {s t : CharSet} : (s.union t).Holds n ↔ s.Holds n ∨ t.Holds n := by
  rw [union, holds_ofRanges, reaches_append]
  rfl

theorem not_holds_unions_nil : ¬ (unions []).Holds n := by
  rw [unions, holds_ofRanges]
  exact not_reaches_nil

theorem holds_unions_cons {s : CharSet} {sets : List CharSet} :
    (unions (s :: sets)).Holds n ↔ s.Holds n ∨ (unions sets).Holds n := by
  rw [unions, holds_ofRanges, List.flatMap_cons, reaches_append, unions, holds_ofRanges]
  rfl

theorem holds_unions {sets : List CharSet} : (unions sets).Holds n ↔ ∃ s ∈ sets, s.Holds n := by
  induction sets with
  | nil => exact iff_of_false not_holds_unions_nil (by simp)
  | cons s sets ih => simp only [holds_unions_cons, ih, List.mem_cons, exists_eq_or_imp]

theorem contains_unions {sets : List CharSet} :
    (unions sets).contains c = true ↔ ∃ s ∈ sets, s.Holds c.toNat :=
  (ordered_ofRanges _).containsCode_iff.trans holds_unions

theorem holds_range : (range low high).Holds (Char.toNat c) ↔ low ≤ c ∧ c ≤ high := by
  rw [Holds, range, reaches_cons, or_iff_left not_reaches_nil]
  rfl

theorem holds_single : (single d).Holds (Char.toNat c) ↔ c = d := by
  rw [single, holds_range]
  exact ⟨fun h => Char.le_antisymm h.2 h.1, fun h => h ▸ ⟨Char.le_refl c, Char.le_refl c⟩⟩

theorem ordered_range (low high : Char) : (range low high).Ordered := List.pairwise_singleton _ _

theorem contains_range : (range low high).contains c = true ↔ low ≤ c ∧ c ≤ high :=
  (ordered_range low high).containsCode_iff.trans holds_range

theorem contains_single : (single d).contains c = true ↔ c = d :=
  (ordered_range d d).containsCode_iff.trans holds_single

-- ---------------------------------------------------------------------------
-- Normal form
-- ---------------------------------------------------------------------------

/-- There is a code point between the end of one range and the start of another. -/
def Apart (r s : Nat × Nat) : Prop := r.2 + 1 < s.1

/-- Every range holds a code point. -/
def Inhabited (rs : List (Nat × Nat)) : Prop := ∀ r ∈ rs, r.1 ≤ r.2

theorem joinFrom_apart (hrs : ((low, high) :: rs).Pairwise Ascends) :
    (joinFrom low high rs).Pairwise Apart := by
  induction rs generalizing low high with
  | nil => exact List.pairwise_singleton _ _
  | cons s rest ih =>
    obtain ⟨hlow, hrest⟩ := List.pairwise_cons.mp hrs
    rw [joinFrom]
    split
    · exact ih (Ascends.join hrs _)
    · rename_i hgap
      refine List.pairwise_cons.mpr ⟨fun r hr => ?_, ih hrest⟩
      exact Nat.lt_of_lt_of_le (Nat.lt_of_not_le hgap) (le_of_mem_joinFrom hrest r hr)

theorem Inhabited.joinFrom (hrs : Inhabited ((low, high) :: rs)) :
    Inhabited (joinFrom low high rs) := by
  induction rs generalizing low high with
  | nil => exact hrs
  | cons s rest ih =>
    obtain ⟨hlow, hrest⟩ := List.forall_mem_cons.mp hrs
    rw [CharSet.joinFrom]
    split
    · refine ih (List.forall_mem_cons.mpr ⟨?_, (List.forall_mem_cons.mp hrest).2⟩)
      exact Nat.le_trans hlow (Nat.le_max_left _ _)
    · exact List.forall_mem_cons.mpr ⟨hlow, ih hrest⟩

theorem le_of_reaches (hrs : (r :: rs).Pairwise Apart) (hinhabited : Inhabited (r :: rs))
    (h : Reaches (r :: rs) n) : r.1 ≤ n := by
  rcases reaches_cons.mp h with hcovers | ⟨s, hs, hcovers⟩
  · exact hcovers.1
  · have hr : r.1 ≤ r.2 := hinhabited r List.mem_cons_self
    have hgap : r.2 + 1 < s.1 := (List.pairwise_cons.mp hrs).1 s hs
    have hstart : s.1 ≤ n := hcovers.1
    omega

/-- The code point behind the first range is in no other one. -/
theorem not_reaches_end (hrs : (r :: rs).Pairwise Apart) : ¬ Reaches (r :: rs) (r.2 + 1) := by
  rw [reaches_cons]
  rintro (hcovers | ⟨s, hs, hcovers⟩)
  · exact absurd hcovers.2 (Nat.not_succ_le_self _)
  · exact absurd hcovers.1 (Nat.not_le_of_lt ((List.pairwise_cons.mp hrs).1 s hs))

theorem reaches_tail (hrs : (r :: rs).Pairwise Apart) :
    Reaches rs n ↔ r.2 < n ∧ Reaches (r :: rs) n := by
  rw [reaches_cons]
  constructor
  · rintro ⟨s, hs, hcovers⟩
    have hgap : r.2 + 1 < s.1 := (List.pairwise_cons.mp hrs).1 s hs
    exact ⟨by have := hcovers.1; omega, .inr ⟨s, hs, hcovers⟩⟩
  · rintro ⟨hbehind, hcovers | h⟩
    · exact absurd hcovers.2 (Nat.not_le_of_lt hbehind)
    · exact h

/-- Ranges apart are determined by their code points. -/
theorem eq_of_reaches_iff (hrs : rs.Pairwise Apart) (hrs' : Inhabited rs) (hss : ss.Pairwise Apart)
    (hss' : Inhabited ss) (h : ∀ n, Reaches rs n ↔ Reaches ss n) : rs = ss := by
  have hstart {r : Nat × Nat} {rs : List (Nat × Nat)} (hr : Inhabited (r :: rs)) :
      Reaches (r :: rs) r.1 :=
    reaches_cons.mpr (.inl ⟨Nat.le_refl _, hr r List.mem_cons_self⟩)
  induction rs generalizing ss with
  | nil =>
    cases ss with
    | nil => rfl
    | cons s ss => exact absurd ((h s.1).mpr (hstart hss')) not_reaches_nil
  | cons r rs ih =>
    cases ss with
    | nil => exact absurd ((h r.1).mp (hstart hrs')) not_reaches_nil
    | cons s ss =>
      have hr : r.1 ≤ r.2 := hrs' r List.mem_cons_self
      have hs : s.1 ≤ s.2 := hss' s List.mem_cons_self
      have hfirst : r.1 = s.1 :=
        Nat.le_antisymm (le_of_reaches hrs hrs' ((h s.1).mpr (hstart hss')))
          (le_of_reaches hss hss' ((h r.1).mp (hstart hrs')))
      have hlast : r.2 = s.2 := by
        refine Nat.le_antisymm (Nat.le_of_not_lt fun hlt => ?_) (Nat.le_of_not_lt fun hlt => ?_)
        · refine not_reaches_end hss ((h _).mp (reaches_cons.mpr (.inl ⟨?_, hlt⟩)))
          omega
        · refine not_reaches_end hrs ((h _).mpr (reaches_cons.mpr (.inl ⟨?_, hlt⟩)))
          omega
      obtain rfl : r = s := Prod.ext hfirst hlast
      refine congrArg _ (ih hrs.of_cons (List.forall_mem_cons.mp hrs').2 hss.of_cons
        (List.forall_mem_cons.mp hss').2 fun n => ?_)
      rw [reaches_tail hrs, reaches_tail hss, h]

/-- Sets whose ranges are neither empty nor split up. -/
structure Normal (s : CharSet) : Prop where
  apart : s.ranges.toList.Pairwise Apart
  inhabited : Inhabited s.ranges.toList

theorem Normal.ordered {s : CharSet} (hs : s.Normal) : s.Ordered := by
  refine hs.apart.imp_of_mem fun {r t} hr _ hgap => ?_
  have hinhabited : r.1 ≤ r.2 := hs.inhabited r hr
  have hgap : r.2 + 1 < t.1 := hgap
  exact ⟨by omega, by omega⟩

theorem Normal.ext {s t : CharSet} (hs : s.Normal) (ht : t.Normal)
    (h : ∀ n, s.Holds n ↔ t.Holds n) : s = t := by
  cases s
  cases t
  exact congrArg CharSet.mk
    (Array.toList_inj.mp (eq_of_reaches_iff hs.apart hs.inhabited ht.apart ht.inhabited h))

theorem normal_range {low high : Char} (h : low ≤ high) : (range low high).Normal :=
  ⟨List.pairwise_singleton _ _, List.forall_mem_singleton.mpr h⟩

theorem normal_ofRanges (h : Inhabited rs) : (ofRanges rs).Normal := by
  have hascends := pairwise_mergeSort_ascends rs
  have hinhabited : Inhabited (rs.mergeSort fun r s => r.1 ≤ s.1) :=
    fun r hr => h r (List.mem_mergeSort.mp hr)
  unfold ofRanges
  split
  · exact ⟨List.Pairwise.nil, nofun⟩
  · rename_i hsort
    rw [hsort] at hascends hinhabited
    exact ⟨joinFrom_apart hascends, hinhabited.joinFrom⟩

theorem normal_unions {sets : List CharSet} (h : ∀ s ∈ sets, s.Normal) : (unions sets).Normal := by
  refine normal_ofRanges fun r hr => ?_
  obtain ⟨s, hs, hr⟩ := List.mem_flatMap.mp hr
  exact (h s hs).inhabited r hr

theorem Normal.union {s t : CharSet} (hs : s.Normal) (ht : t.Normal) : (s.union t).Normal :=
  normal_ofRanges (List.forall_mem_append.mpr ⟨hs.inhabited, ht.inhabited⟩)

-- ---------------------------------------------------------------------------
-- Complements
-- ---------------------------------------------------------------------------

section Gaps

variable {rs : List (Nat × Nat)} (hrs : rs.Pairwise Precedes) (hinhabited : Inhabited rs)
  (hlow : ∀ r ∈ rs, low ≤ r.1)
include hrs hinhabited hlow

theorem reaches_gapsFrom (hn : n ≤ maxCodePoint) :
    Reaches (gapsFrom low rs) n ↔ low ≤ n ∧ ¬ Reaches rs n := by
  induction rs generalizing low with
  | nil =>
    rw [gapsFrom, and_iff_left not_reaches_nil]
    split
    · rw [reaches_cons, or_iff_left not_reaches_nil]
      exact and_iff_left hn
    · exact iff_of_false not_reaches_nil (by omega)
  | cons r rest ih =>
    obtain ⟨hprecedes, hrest⟩ := List.pairwise_cons.mp hrs
    obtain ⟨hr, hinhabited⟩ := List.forall_mem_cons.mp hinhabited
    have hstart : low ≤ r.1 := hlow r List.mem_cons_self
    have hgaps := ih hrest hinhabited fun s hs => (hprecedes s hs).2
    have hbehind : Reaches rest n → r.2 < n := fun ⟨s, hs, hcovers⟩ =>
      Nat.lt_of_lt_of_le (hprecedes s hs).2 hcovers.1
    rw [gapsFrom]
    split
    · rw [reaches_cons, reaches_cons, hgaps, Covers, Covers]
      grind
    · rw [reaches_cons, hgaps, Covers]
      grind

theorem le_of_mem_gapsFrom : ∀ r ∈ gapsFrom low rs, low ≤ r.1 := by
  induction rs generalizing low with
  | nil => simp [gapsFrom]
  | cons r rest ih =>
    obtain ⟨hprecedes, hrest⟩ := List.pairwise_cons.mp hrs
    obtain ⟨hr, hinhabited⟩ := List.forall_mem_cons.mp hinhabited
    have hstart : low ≤ r.1 := hlow r List.mem_cons_self
    have hgaps := ih hrest hinhabited fun s hs => (hprecedes s hs).2
    have hbehind : ∀ s ∈ gapsFrom (r.2 + 1) rest, low ≤ s.1 := fun s hs => by
      have := hgaps s hs
      omega
    rw [gapsFrom]
    split
    · exact List.forall_mem_cons.mpr ⟨Nat.le_refl low, hbehind⟩
    · exact hbehind

theorem gapsFrom_precedes : (gapsFrom low rs).Pairwise Precedes := by
  induction rs generalizing low with
  | nil =>
    rw [gapsFrom]
    split
    · exact List.pairwise_singleton _ _
    · exact List.Pairwise.nil
  | cons r rest ih =>
    obtain ⟨hprecedes, hrest⟩ := List.pairwise_cons.mp hrs
    obtain ⟨hr, hinhabited⟩ := List.forall_mem_cons.mp hinhabited
    have hstart : low ≤ r.1 := hlow r List.mem_cons_self
    have hbehind : ∀ s ∈ rest, r.2 + 1 ≤ s.1 := fun s hs => (hprecedes s hs).2
    rw [gapsFrom]
    split
    · refine List.pairwise_cons.mpr ⟨fun s hs => ?_, ih hrest hinhabited hbehind⟩
      have := le_of_mem_gapsFrom hrest hinhabited hbehind s hs
      exact ⟨by dsimp only; omega, by dsimp only; omega⟩
    · exact ih hrest hinhabited hbehind

end Gaps

theorem toNat_le_maxCodePoint (c : Char) : c.toNat ≤ maxCodePoint := by
  have hvalid : c.toNat < 0xD800 ∨ 0xDFFF < c.toNat ∧ c.toNat < 0x110000 := c.valid
  rw [maxCodePoint]
  omega

theorem contains_complement {s : CharSet} (hs : s.Normal) :
    s.complement.contains c = !s.contains c := by
  have hlow : ∀ r ∈ s.ranges.toList, 0 ≤ r.1 := fun r _ => Nat.zero_le r.1
  have hordered : s.complement.Ordered := gapsFrom_precedes hs.ordered hs.inhabited hlow
  rw [Bool.eq_iff_iff, Bool.not_eq_true', ← Bool.not_eq_true, contains, contains,
    hordered.containsCode_iff, hs.ordered.containsCode_iff]
  exact (reaches_gapsFrom hs.ordered hs.inhabited hlow (toNat_le_maxCodePoint c)).trans
    (and_iff_right (Nat.zero_le _))

theorem holds_ofTable {cs : List Char} :
    (ofTable (String.ofList cs)).Holds n ↔
      Reaches ((Table.words cs).flatMap Table.wordRanges) n := by
  rw [ofTable, String.toList_ofList, holds_ofRanges]

end CharSet

end Unicode

end RecordSchema
