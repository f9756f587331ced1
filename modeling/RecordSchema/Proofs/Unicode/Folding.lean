import RecordSchema.Proofs.Unicode.CharSet
import RecordSchema.Unicode.Folding

/-!
# Case folding closures

The classes of characters that fold together are read off the folding table: a class is one
character and all that fold to it (`mem_foldClasses_iff`). Around ASCII these are the two cases of
each letter, and the long s and the Kelvin sign (`mem_foldPairs_iff`).
-/

namespace RecordSchema

namespace Unicode

open CharSet

-- ---------------------------------------------------------------------------
-- Classes
-- ---------------------------------------------------------------------------

/-- The characters of the folding table, each behind the one that it folds to. -/
def foldPairs : List (Nat × Nat) :=
  simpleFoldMap.entries.toList.flatMap fun entry => entry.2.map fun target => (target, entry.1)

/-- Put a pair in front of classes: into the first one, if that is its class. -/
def addPair (pair : Nat × Nat) (classes : List (List Nat)) : List (List Nat) :=
  match classes with
  | (target :: others) :: rest =>
    if target == pair.1 then (target :: pair.2 :: others) :: rest
    else [pair.1, pair.2] :: classes
  | _ => [pair.1, pair.2] :: classes

/-- The second character is one of those in a class that fold to the first. -/
def InClass (classes : List (List Nat)) (t n : Nat) : Prop :=
  ∃ others, t :: others ∈ classes ∧ n ∈ others

theorem inClass_cons : InClass (codes :: classes) t n ↔
    (∃ others, codes = t :: others ∧ n ∈ others) ∨ InClass classes t n := by
  simp only [InClass, List.mem_cons, or_and_right, exists_or, eq_comm]

theorem inClass_addPair (pair : Nat × Nat) (classes : List (List Nat)) :
    InClass (addPair pair classes) t n ↔ (t, n) = pair ∨ InClass classes t n := by
  have hnew : InClass ([pair.1, pair.2] :: classes) t n ↔ (t, n) = pair ∨ InClass classes t n := by
    rw [inClass_cons]
    refine or_congr_left ?_
    constructor
    · rintro ⟨_, ⟨⟩, hn⟩
      rw [List.mem_singleton.mp hn]
    · rintro rfl
      exact ⟨[n], rfl, List.mem_singleton_self n⟩
  unfold addPair
  split
  · rename_i target others rest
    split
    · rename_i htarget
      obtain rfl : target = pair.1 := beq_iff_eq.mp htarget
      rw [inClass_cons, inClass_cons, ← or_assoc]
      refine or_congr_left ?_
      constructor
      · rintro ⟨_, ⟨⟩, hn⟩
        rcases List.mem_cons.mp hn with rfl | hn
        · exact .inl rfl
        · exact .inr ⟨others, rfl, hn⟩
      · rintro (rfl | ⟨_, ⟨⟩, hn⟩)
        · exact ⟨_, rfl, List.mem_cons_self⟩
        · exact ⟨_, rfl, List.mem_cons_of_mem _ hn⟩
    · exact hnew
  · exact hnew

theorem inClass_foldr (pairs : List (Nat × Nat)) :
    InClass (pairs.foldr addPair []) t n ↔ (t, n) ∈ pairs := by
  induction pairs with
  | nil => simp [InClass]
  | cons pair pairs ih => rw [List.foldr_cons, inClass_addPair, ih, List.mem_cons]

theorem mem_foldClasses_iff : InClass foldClasses t n ↔ (t, n) ∈ foldPairs :=
  (inClass_foldr _).trans List.mem_mergeSort

/-- A character that does not fold to another one is the first of its class. -/
theorem mem_class_iff (hn : ∀ t, (t, n) ∉ foldPairs) :
    (m = n ∨ ∃ codes ∈ foldClasses, m ∈ codes ∧ n ∈ codes) ↔ m = n ∨ (n, m) ∈ foldPairs := by
  constructor
  · rintro (rfl | ⟨codes, hcodes, hm, hmem⟩)
    · exact .inl rfl
    · cases codes with
      | nil => cases hmem
      | cons t others =>
        rcases List.mem_cons.mp hmem with rfl | hmem
        · refine (List.mem_cons.mp hm).imp_right fun hm => ?_
          exact mem_foldClasses_iff.mp ⟨others, hcodes, hm⟩
        · exact absurd (mem_foldClasses_iff.mp ⟨others, hcodes, hmem⟩) (hn t)
  · rintro (rfl | hpair)
    · exact .inl rfl
    · obtain ⟨others, hcodes, hm⟩ := mem_foldClasses_iff.mpr hpair
      exact .inr ⟨_, hcodes, List.mem_cons_of_mem _ hm, List.mem_cons_self⟩

-- ---------------------------------------------------------------------------
-- Closures
-- ---------------------------------------------------------------------------

theorem reaches_points {ns : List Nat} : Reaches (ns.map fun n => (n, n)) n ↔ n ∈ ns := by
  constructor
  · rintro ⟨_, hr, hcovers⟩
    obtain ⟨m, hm, rfl⟩ := List.mem_map.mp hr
    rwa [← Nat.le_antisymm hcovers.1 hcovers.2]
  · exact fun hn => ⟨_, List.mem_map_of_mem hn, Nat.le_refl n, Nat.le_refl n⟩

theorem CharSet.Normal.foldClosure {s : CharSet} (hs : s.Normal) : s.foldClosure.Normal := by
  unfold CharSet.foldClosure
  dsimp only
  split
  · exact hs
  · exact hs.union (normal_ofRanges (List.forall_mem_map.mpr fun n _ => Nat.le_refl n))

theorem holds_foldClosure {s : CharSet} (hs : s.Ordered) : s.foldClosure.Holds m ↔
    s.Holds m ∨ ∃ n, s.Holds n ∧ ∃ codes ∈ foldClasses, m ∈ codes ∧ n ∈ codes := by
  have hadded : m ∈ (foldClasses.filter fun codes => codes.any s.containsCode).flatten ↔
      ∃ n, s.Holds n ∧ ∃ codes ∈ foldClasses, m ∈ codes ∧ n ∈ codes := by
    simp only [List.mem_flatten, List.mem_filter, List.any_eq_true, hs.containsCode_iff]
    constructor
    · rintro ⟨codes, ⟨hcodes, n, hn, hholds⟩, hm⟩
      exact ⟨n, hholds, codes, hcodes, hm, hn⟩
    · rintro ⟨n, hholds, codes, hcodes, hm, hn⟩
      exact ⟨codes, ⟨hcodes, n, hn, hholds⟩, hm⟩
  rw [← hadded]
  unfold CharSet.foldClosure
  dsimp only
  split
  · rename_i hempty
    rw [List.isEmpty_iff.mp hempty, List.flatten_nil]
    exact (or_iff_left List.not_mem_nil).symm
  · rw [holds_union, holds_ofRanges, reaches_points]

theorem holds_foldClosure_single {c : Char} (hc : ∀ t, (t, c.toNat) ∉ foldPairs) :
    (single c).foldClosure.Holds m ↔ m = c.toNat ∨ (c.toNat, m) ∈ foldPairs := by
  have hordered : (single c).Ordered := ordered_range c c
  have hsingle {n : Nat} : (single c).Holds n ↔ n = c.toNat := by
    rw [Holds, single, range, reaches_cons, or_iff_left not_reaches_nil]
    exact Nat.le_antisymm_iff.symm.trans eq_comm
  rw [holds_foldClosure hordered, ← mem_class_iff hc]
  simp only [hsingle, exists_eq_left]

-- ---------------------------------------------------------------------------
-- The table
-- ---------------------------------------------------------------------------

/-- Neither side of the word has to do with ASCII. -/
def isBeyondAscii (word : List Char) : Bool :=
  match Text.splitOn '>' word with
  | [source, target] =>
    (Table.wordRanges source).all (fun r => 0x80 ≤ r.1)
      && match Text.splitOn '.' target with
        | [first] => 0x80 ≤ Table.hexValue first
        | _ => false
  | _ => true

/-- The targets of a range ascend from the one in the word. -/
theorem beyond_of_isBeyondAscii (hword : isBeyondAscii word = true)
    (hentry : (n, targets) ∈ CodeMap.wordEntries word) : 0x80 ≤ n ∧ ∀ t ∈ targets, 0x80 ≤ t := by
  unfold isBeyondAscii at hword
  unfold CodeMap.wordEntries at hentry
  split at hword
  · rename_i source target hsplit
    simp only [hsplit] at hentry
    obtain ⟨hsource, htarget⟩ := Bool.and_eq_true_iff.mp hword
    split at htarget
    · rename_i first hfirst
      simp only [hfirst, List.map_cons, List.map_nil] at hentry
      generalize hcodes : (Table.wordRanges source).flatMap _ = codes at hentry
      cases codes with
      | nil => cases hentry
      | cons low rest =>
        obtain ⟨m, hm, hentry⟩ := List.mem_map.mp hentry
        rw [← hcodes] at hm
        obtain ⟨r, hr, hm⟩ := List.mem_flatMap.mp hm
        obtain ⟨i, -, rfl⟩ := List.mem_map.mp hm
        have hlow := of_decide_eq_true (List.all_eq_true.mp hsource r hr)
        have hfirst := of_decide_eq_true htarget
        cases hentry
        refine ⟨by omega, List.forall_mem_singleton.mpr (by omega)⟩
    · cases htarget
  · rename_i hsplit
    split at hentry
    · exact absurd (by assumption) (hsplit _ _)
    · cases hentry

section Table

variable {text : List Char}
  (htext : (Table.words text).filter (fun word => !isBeyondAscii word) = words)
include htext

theorem mem_table_iff (hascii : n < 0x80 ∨ ∃ t ∈ targets, t < 0x80) :
    (n, targets) ∈ (CodeMap.ofTable (String.ofList text)).entries.toList ↔
      (n, targets) ∈ words.flatMap CodeMap.wordEntries := by
  rw [CodeMap.ofTable, List.toList_toArray, String.toList_ofList, ← htext]
  simp only [List.mem_flatMap, List.mem_filter, Bool.not_eq_true']
  constructor
  · rintro ⟨word, hword, hentry⟩
    refine ⟨word, ⟨hword, Bool.eq_false_iff.mpr fun hbeyond => ?_⟩, hentry⟩
    obtain ⟨hn, htargets⟩ := beyond_of_isBeyondAscii hbeyond hentry
    rcases hascii with hascii | ⟨t, ht, hascii⟩
    · omega
    · have := htargets t ht
      omega
  · rintro ⟨word, ⟨hword, -⟩, hentry⟩
    exact ⟨word, hword, hentry⟩

end Table

def asciiFoldPairs : List (Nat × Nat) :=
  (List.range 26).map (fun i => (0x61 + i, 0x41 + i)) ++ [(0x73, 0x17F), (0x6B, 0x212A)]

-- A table is as deep a term as it has characters.
set_option maxRecDepth 20000 in
theorem mem_simpleFoldMap_iff (hascii : n < 0x80 ∨ ∃ t ∈ targets, t < 0x80) :
    (n, targets) ∈ simpleFoldMap.entries.toList ↔
      (n, targets) ∈ asciiFoldPairs.map fun pair => (pair.2, [pair.1]) := by
  have hwords : ["41-5A>61".toList, "17F>73".toList, "212A>6B".toList].flatMap
      CodeMap.wordEntries = asciiFoldPairs.map fun pair => (pair.2, [pair.1]) := by decide
  rw [← hwords]
  refine mem_table_iff ?_ hascii
  decide +kernel

theorem mem_foldPairs_iff (hascii : n < 0x80 ∨ t < 0x80) :
    (t, n) ∈ foldPairs ↔ (t, n) ∈ asciiFoldPairs := by
  rw [foldPairs, List.mem_flatMap]
  constructor
  · rintro ⟨⟨m, targets⟩, hentry, hpair⟩
    obtain ⟨t, ht, ⟨⟩⟩ := List.mem_map.mp hpair
    rw [mem_simpleFoldMap_iff (hascii.imp_right fun h => ⟨t, ht, h⟩)] at hentry
    obtain ⟨pair, hpair, ⟨⟩⟩ := List.mem_map.mp hentry
    rwa [List.mem_singleton.mp ht]
  · intro hpair
    refine ⟨(n, [t]), ?_, List.mem_map_of_mem (List.mem_singleton_self t)⟩
    rw [mem_simpleFoldMap_iff (hascii.imp_right fun h => ⟨t, List.mem_singleton_self t, h⟩)]
    exact List.mem_map_of_mem hpair

/-- The characters that fold to a given one. -/
def otherCases (n : Nat) : List Nat := (asciiFoldPairs.filter fun pair => pair.1 == n).map (·.2)

theorem mem_otherCases : m ∈ otherCases n ↔ (n, m) ∈ asciiFoldPairs := by
  simp [otherCases]

/-- A character of ASCII with its other cases. -/
theorem foldClosure_single {c : Char} (hascii : c.toNat < 0x80)
    (hc : ∀ pair ∈ asciiFoldPairs, pair.2 ≠ c.toNat) :
    (single c).foldClosure = .ofRanges ((c.toNat :: otherCases c.toNat).map fun n => (n, n)) := by
  refine (normal_range (Char.le_refl c)).foldClosure.ext
    (normal_ofRanges (List.forall_mem_map.mpr fun n _ => Nat.le_refl n)) fun m => ?_
  have hsource : ∀ t, (t, c.toNat) ∉ foldPairs := fun t hmem =>
    hc _ ((mem_foldPairs_iff (.inl hascii)).mp hmem) rfl
  rw [holds_ofRanges, reaches_points, List.mem_cons, mem_otherCases,
    ← mem_foldPairs_iff (.inr hascii)]
  exact holds_foldClosure_single hsource

end Unicode

end RecordSchema
