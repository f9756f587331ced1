import Mathlib.Logic.Function.Iterate
import RecordSchema.Pattern.Match

/-!
# What patterns match

A pattern means a set of stretches of text, each with what stands before and after it. The
matcher works on places instead: it carries all places where a match may begin to all places
where one may end. It finds a match exactly when some stretch of the text is one
(`isMatch_iff`).
-/

namespace RecordSchema

namespace Pattern

-- ---------------------------------------------------------------------------
-- Meanings
-- ---------------------------------------------------------------------------

/-- A set of stretches, as what stands before the stretch, the stretch, and what stands after. -/
abbrev Meaning := List Char → List Char → List Char → Prop

namespace Meaning

/-- The empty stretch, wherever it is. -/
def nothing : Meaning := fun _ part _ => part = []

/-- One stretch and another one right behind it. -/
def next (R S : Meaning) : Meaning := fun before part after =>
  ∃ first rest, part = first ++ rest ∧
    R before first (rest ++ after) ∧ S (before ++ first) rest after

def either (R S : Meaning) : Meaning := fun before part after =>
  R before part after ∨ S before part after

/-- So many stretches in a row. -/
def times (R : Meaning) : Nat → Meaning
  | 0 => nothing
  | n + 1 => next R (R.times n)

/-- At least so many stretches in a row, and at most so many; a bound below the least counts as
the least. -/
def counted (R : Meaning) (least : Nat) (most : Option Nat) : Meaning := fun before part after =>
  ∃ n, least ≤ n ∧ (∀ m ∈ most, n ≤ max m least) ∧ R.times n before part after

end Meaning

open Meaning

mutual
/-- The stretches that a pattern matches. -/
def Matches : Pattern → Meaning
  | .empty => nothing
  | .char set _ => fun _ part _ => ∃ c, set.contains c = true ∧ part = [c]
  | .look l => fun before part after => l.holds before.getLast? after.head? = true ∧ part = []
  | .group _ body => body.Matches
  | .concat parts => MatchesAll parts
  | .branch choices => MatchesAny choices
  | .repeated body min max => body.Matches.counted min max
def MatchesAll : List Pattern → Meaning
  | [] => nothing
  | p :: rest => next p.Matches (MatchesAll rest)
def MatchesAny : List Pattern → Meaning
  | [] => fun _ _ _ => False
  | p :: rest => either p.Matches (MatchesAny rest)
end

-- ---------------------------------------------------------------------------
-- Places
-- ---------------------------------------------------------------------------

/-- A stretch of the text, from one place to another. -/
def Reaches (text : List Char) (R : Meaning) (i k : Nat) : Prop :=
  ∃ before part after, text = before ++ (part ++ after) ∧ i = before.length ∧
    k = before.length + part.length ∧ R before part after

section Places

variable {text : List Char} {R S : Meaning} {i j k n : Nat}

theorem Reaches.le_length (h : Reaches text R i k) : k ≤ text.length := by
  obtain ⟨before, part, after, rfl, -, rfl, -⟩ := h
  simp only [List.length_append]
  omega

theorem reaches_nothing : Reaches text nothing i k ↔ i = k ∧ i ≤ text.length := by
  constructor
  · rintro ⟨before, part, after, rfl, rfl, rfl, rfl⟩
    simp
  · rintro ⟨rfl, hi⟩
    refine ⟨text.take i, [], text.drop i, (List.take_append_drop i text).symm, ?_, ?_, rfl⟩
    · rw [List.length_take_of_le hi]
    · rw [List.length_take_of_le hi, List.length_nil, Nat.add_zero]

/-- The first stretch ends where the second one begins. -/
theorem reaches_next :
    Reaches text (next R S) i k ↔ ∃ j, Reaches text R i j ∧ Reaches text S j k := by
  constructor
  · rintro ⟨before, part, after, rfl, rfl, rfl, first, rest, rfl, hR, hS⟩
    refine ⟨before.length + first.length, ⟨before, first, rest ++ after, ?_, rfl, rfl, hR⟩,
      ⟨before ++ first, rest, after, ?_, ?_, ?_, hS⟩⟩
    · simp only [List.append_assoc]
    · simp only [List.append_assoc]
    · simp only [List.length_append]
    · simp only [List.length_append, Nat.add_assoc]
  · rintro ⟨j, ⟨before, first, later, htext, rfl, rfl, hR⟩,
      earlier, rest, after, htext', hj, rfl, hS⟩
    rw [← List.append_assoc] at htext
    obtain ⟨hearlier, hlater⟩ :=
      List.append_inj (htext.symm.trans htext') (by rw [List.length_append, hj])
    subst hearlier hlater
    refine ⟨before, first ++ rest, after, ?_, rfl, ?_, first, rest, rfl, hR, hS⟩
    · rw [htext, List.append_assoc, List.append_assoc]
    · simp only [List.length_append, Nat.add_assoc]

theorem reaches_either :
    Reaches text (either R S) i k ↔ Reaches text R i k ∨ Reaches text S i k := by
  simp only [Reaches, either, and_or_left, exists_or]

end Places

-- ---------------------------------------------------------------------------
-- Repetitions
-- ---------------------------------------------------------------------------

namespace Meaning

variable {R : Meaning} {before part after : List Char}

theorem nothing_next : next nothing R before part after ↔ R before part after := by
  constructor
  · rintro ⟨first, rest, rfl, rfl, h⟩
    rwa [List.append_nil] at h
  · exact fun h => ⟨[], part, rfl, rfl, by rwa [List.append_nil]⟩

theorem next_assoc {S T : Meaning} :
    next (next R S) T before part after ↔ next R (next S T) before part after := by
  constructor
  · rintro ⟨_, last, rfl, ⟨first, middle, rfl, hR, hS⟩, hT⟩
    rw [← List.append_assoc] at hR hT
    exact ⟨first, middle ++ last, List.append_assoc _ _ _, hR, middle, last, rfl, hS, hT⟩
  · rintro ⟨first, _, rfl, hR, middle, last, rfl, hS, hT⟩
    rw [List.append_assoc] at hR hT
    exact ⟨first ++ middle, last, (List.append_assoc _ _ _).symm, ⟨first, middle, rfl, hR, hS⟩, hT⟩

theorem times_add : R.times (m + n) before part after ↔
    next (R.times m) (R.times n) before part after := by
  induction m generalizing before part with
  | zero => rw [Nat.zero_add, times, nothing_next]
  | succ m ih =>
    rw [Nat.succ_add, times, times, next_assoc]
    simp only [next, ih]

/-- Stretches any of which may be left out are as many stretches or fewer. -/
theorem times_optional : (either nothing R).times n before part after ↔
    ∃ m, m ≤ n ∧ R.times m before part after := by
  induction n generalizing before part with
  | zero => simp [times]
  | succ n ih =>
    rw [times, next]
    simp only [ih]
    constructor
    · rintro ⟨first, rest, rfl, rfl | hfirst, m, hm, hrest⟩
      · rw [List.append_nil] at hrest
        exact ⟨m, Nat.le_succ_of_le hm, hrest⟩
      · exact ⟨m + 1, Nat.succ_le_succ hm, first, rest, rfl, hfirst, hrest⟩
    · rintro ⟨m, hm, h⟩
      cases m with
      | zero => exact ⟨[], part, rfl, .inl rfl, 0, Nat.zero_le n, h⟩
      | succ m =>
        obtain ⟨first, rest, rfl, hfirst, hrest⟩ := h
        exact ⟨first, rest, rfl, .inr hfirst, m, Nat.le_of_succ_le_succ hm, hrest⟩

/-- A stretch of many parts can do with at most as many of them as it has characters: the others
are empty. -/
theorem times_shorten (h : R.times n before part after) :
    ∃ m, m ≤ n ∧ m ≤ part.length ∧ R.times m before part after := by
  induction n generalizing before part with
  | zero => exact ⟨0, Nat.le_refl 0, Nat.zero_le _, h⟩
  | succ n ih =>
    obtain ⟨first, rest, rfl, hfirst, hrest⟩ := h
    obtain ⟨m, hn, hlength, hm⟩ := ih hrest
    cases first with
    | nil =>
      rw [List.append_nil] at hm
      exact ⟨m, Nat.le_succ_of_le hn, hlength, hm⟩
    | cons c first =>
      refine ⟨m + 1, Nat.succ_le_succ hn, ?_, c :: first, rest, rfl, hfirst, hm⟩
      simp only [List.length_append, List.length_cons]
      omega

/-- Beyond the least count, no more repetitions than characters need be tried. -/
theorem counted_iff (hlimit : part.length ≤ limit) (least : Nat) (most : Option Nat) :
    R.counted least most before part after ↔
      next (R.times least)
        ((either nothing R).times (most.elim limit fun m => Nat.min (m - least) limit))
        before part after := by
  constructor
  · rintro ⟨n, hmin, hmax, h⟩
    rw [← Nat.add_sub_of_le hmin, times_add] at h
    obtain ⟨first, rest, rfl, hfirst, hrest⟩ := h
    obtain ⟨m, hn, hlength, hm⟩ := times_shorten hrest
    have hle : m ≤ limit := by
      rw [List.length_append] at hlimit
      omega
    refine ⟨first, rest, rfl, hfirst, times_optional.mpr ⟨m, ?_, hm⟩⟩
    cases most with
    | none => exact hle
    | some bound =>
      have hbound : n ≤ max bound least := hmax bound rfl
      have hmore : n - least ≤ bound - least := by omega
      exact Nat.le_min.mpr ⟨Nat.le_trans hn hmore, hle⟩
  · rintro ⟨first, rest, rfl, hfirst, hrest⟩
    obtain ⟨m, hm, hrest⟩ := times_optional.mp hrest
    refine ⟨least + m, Nat.le_add_right least m, ?_,
      times_add.mpr ⟨first, rest, rfl, hfirst, hrest⟩⟩
    rintro bound rfl
    have hbound : m ≤ bound - least := Nat.le_trans hm (Nat.min_le_left _ limit)
    omega

end Meaning

-- ---------------------------------------------------------------------------
-- Sets of places
-- ---------------------------------------------------------------------------

theorem testBit_bits : (bits answers).testBit i = true ↔ answers[i]? = some true := by
  induction answers generalizing i with
  | nil => simp [bits]
  | cons b rest ih =>
    have hbits : bits (b :: rest) = 2 * bits rest + b.toNat := rfl
    cases i with
    | zero => cases b <;> simp [hbits, Nat.testBit_zero, Nat.add_mod]
    | succ i =>
      have hbit : b.toNat < 2 := Bool.toNat_lt b
      have hhalf : (2 * bits rest + b.toNat) / 2 = bits rest := by omega
      rw [hbits, Nat.testBit_add_one, hhalf, ih, List.getElem?_cons_succ]

/-- A set that holds places of the text only. -/
def Within (text : List Char) (places : Nat) : Prop :=
  ∀ i, places.testBit i = true → i ≤ text.length

/-- The step takes the places where stretches begin to the places where they end. -/
def Carries (text : List Char) (step : Nat → Nat) (R : Meaning) : Prop :=
  ∀ places, Within text places → ∀ k, (step places).testBit k = true ↔
    ∃ i, places.testBit i = true ∧ Reaches text R i k

section Steps

variable {text : List Char} {f g step : Nat → Nat} {R S : Meaning}

theorem Carries.within (h : Carries text step R) (hp : Within text places) :
    Within text (step places) := by
  intro k hk
  obtain ⟨i, -, hreaches⟩ := (h places hp k).mp hk
  exact hreaches.le_length

theorem Carries.congr (h : Carries text step R)
    (hRS : ∀ i k, Reaches text R i k ↔ Reaches text S i k) : Carries text step S := by
  intro places hp k
  simp only [h places hp k, hRS]

theorem carries_stay : Carries text (fun places => places) nothing := by
  intro places hp k
  simp only [reaches_nothing]
  constructor
  · exact fun hk => ⟨k, hk, rfl, hp k hk⟩
  · rintro ⟨_, hk, rfl, -⟩
    exact hk

theorem Carries.comp (hf : Carries text f R) (hg : Carries text g S) :
    Carries text (fun places => g (f places)) (next R S) := by
  intro places hp k
  simp only [hg _ (hf.within hp) k, hf places hp, reaches_next]
  constructor
  · rintro ⟨j, ⟨i, hi, hR⟩, hS⟩
    exact ⟨i, hi, j, hR, hS⟩
  · rintro ⟨i, hi, j, hR, hS⟩
    exact ⟨j, ⟨i, hi, hR⟩, hS⟩

theorem Carries.union (hf : Carries text f R) (hg : Carries text g S) :
    Carries text (fun places => f places ||| g places) (either R S) := by
  intro places hp k
  simp only [Nat.testBit_or, Bool.or_eq_true, hf places hp k, hg places hp k, reaches_either,
    and_or_left, exists_or]

theorem Carries.iterate (h : Carries text step R) (n : Nat) :
    Carries text step^[n] (R.times n) := by
  induction n with
  | zero => exact carries_stay
  | succ n ih => exact h.comp ih

/-- Where a step changes nothing, more of them change nothing either. -/
theorem iterate_eq (step : Nat → Nat) (n places : Nat) :
    iterate step n places = step^[n] places := by
  induction n generalizing places with
  | zero => rfl
  | succ n ih =>
    rw [Pattern.iterate, Function.iterate_succ_apply]
    split
    · rename_i hfixed
      rw [beq_iff_eq] at hfixed
      rw [hfixed, Function.iterate_fixed hfixed]
    · exact ih _

theorem Carries.counted (h : Carries text step R) (least : Nat) (most : Option Nat)
    (hlimit : text.length ≤ limit) :
    Carries text
      (fun places => (fun s => s ||| step s)^[most.elim limit fun m => Nat.min (m - least) limit]
        (step^[least] places))
      (R.counted least most) := by
  refine ((h.iterate least).comp ((carries_stay.union h).iterate _)).congr fun i k => ?_
  refine exists_congr fun before => exists_congr fun part => exists_congr fun after =>
    and_congr_right fun htext => and_congr_right fun _ => and_congr_right fun _ => ?_
  have hpart : part.length ≤ limit := by
    rw [htext, List.length_append, List.length_append] at hlimit
    omega
  exact (counted_iff hpart least most).symm

/-- One character more is one place further. -/
theorem carries_advance (accepts : Char → Bool) :
    Carries text (fun places => (places &&& bits (text.map accepts)) <<< 1)
      (fun _ part _ => ∃ c, accepts c = true ∧ part = [c]) := by
  intro places _ k
  rw [Nat.testBit_shiftLeft, Bool.and_eq_true, decide_eq_true_iff, Nat.testBit_and,
    Bool.and_eq_true, testBit_bits, List.getElem?_map, Option.map_eq_some_iff]
  constructor
  · rintro ⟨hk, hplace, c, hc, haccepts⟩
    obtain ⟨i, rfl⟩ := Nat.exists_eq_add_of_le' hk
    rw [Nat.add_sub_cancel] at hplace hc
    obtain ⟨hi, rfl⟩ := List.getElem?_eq_some_iff.mp hc
    refine ⟨i, hplace, text.take i, [text[i]], text.drop (i + 1), ?_, ?_, ?_, _, haccepts, rfl⟩
    · rw [List.singleton_append, ← List.drop_eq_getElem_cons, List.take_append_drop]
    · rw [List.length_take_of_le (Nat.le_of_lt hi)]
    · rw [List.length_take_of_le (Nat.le_of_lt hi), List.length_singleton]
  · rintro ⟨i, hplace, before, _, after, rfl, rfl, rfl, c, haccepts, rfl⟩
    exact ⟨Nat.le_add_left 1 _, hplace, c, by simp, haccepts⟩

theorem getElem?_placesFrom (previous : Option Char) (before after : List Char) :
    (placesFrom previous (before ++ after))[before.length]? =
      some (before.getLast?.or previous, after.head?) := by
  induction before generalizing previous with
  | nil => cases after <;> rfl
  | cons c rest ih =>
    rw [List.cons_append, placesFrom, List.length_cons, List.getElem?_cons_succ, ih,
      List.getLast?_cons, Option.some_or, Option.or_some]

/-- A condition keeps the places where it holds. -/
theorem carries_filter (l : Look) :
    Carries text (fun places => places &&&
        bits ((placesFrom none text).map fun place => l.holds place.1 place.2))
      (fun before part after => l.holds before.getLast? after.head? = true ∧ part = []) := by
  intro places hp k
  rw [Nat.testBit_and, Bool.and_eq_true, testBit_bits, List.getElem?_map]
  constructor
  · rintro ⟨hplace, hholds⟩
    have hk := hp k hplace
    have htake : (text.take k).length = k := List.length_take_of_le hk
    have hget := getElem?_placesFrom none (text.take k) (text.drop k)
    rw [List.take_append_drop, htake, Option.or_none] at hget
    rw [hget, Option.map_some, Option.some.injEq] at hholds
    refine ⟨k, hplace, text.take k, [], text.drop k, ?_, htake.symm, ?_, hholds, rfl⟩
    · rw [List.nil_append, List.take_append_drop]
    · rw [htake, List.length_nil, Nat.add_zero]
  · rintro ⟨_, hplace, before, _, after, rfl, rfl, rfl, hholds, rfl⟩
    rw [List.length_nil, Nat.add_zero, List.nil_append, getElem?_placesFrom, Option.or_none,
      Option.map_some, hholds]
    exact ⟨hplace, rfl⟩

end Steps

-- ---------------------------------------------------------------------------
-- The matcher
-- ---------------------------------------------------------------------------

section Matcher

variable {text : List Char} {size : Nat}

mutual
theorem carries_run (hsize : text.length ≤ size) : (p : Pattern) →
    Carries text (fun places => (plan text p).run size places) p.Matches
  | .empty => by
    simpa only [plan, Plan.run, Matches] using carries_stay
  | .char set _ => by
    simpa only [plan, Plan.run, Matches] using carries_advance set.contains
  | .look l => by
    simpa only [plan, Plan.run, Matches] using carries_filter l
  | .group _ body => by
    simpa only [plan, Matches] using carries_run hsize body
  | .concat parts => by
    simpa only [plan, Plan.run, Matches] using carries_runAll hsize parts
  | .branch choices => by
    simpa only [plan, Plan.run, Matches] using carries_runAny hsize choices
  | .repeated body min max => by
    have h := (carries_run hsize body).counted min max hsize
    simp only [← iterate_eq] at h
    cases max <;> simpa only [plan, Plan.run, Matches, Option.elim_none, Option.elim_some] using h
theorem carries_runAll (hsize : text.length ≤ size) : (parts : List Pattern) →
    Carries text (fun places => Plan.runAll size (planAll text parts) places) (MatchesAll parts)
  | [] => by
    simpa only [planAll, Plan.runAll, MatchesAll] using carries_stay
  | p :: rest => by
    simpa only [planAll, Plan.runAll, MatchesAll] using
      (carries_run hsize p).comp (carries_runAll hsize rest)
theorem carries_runAny (hsize : text.length ≤ size) : (choices : List Pattern) →
    Carries text (fun places => Plan.runAny size (planAll text choices) places) (MatchesAny choices)
  | [] => by
    intro places _ k
    simp [planAll, Plan.runAny, MatchesAny, Reaches]
  | p :: rest => by
    simpa only [planAll, Plan.runAny, MatchesAny] using
      (carries_run hsize p).union (carries_runAny hsize rest)
end

/-- All places of the text, its end included. -/
theorem testBit_places : (1 <<< (text.length + 1) - 1).testBit i = true ↔ i ≤ text.length := by
  rw [Nat.one_shiftLeft, Nat.testBit_two_pow_sub_one, decide_eq_true_iff, Nat.lt_succ_iff]

theorem isMatch_iff {p : Pattern} : p.isMatch text = true ↔
    ∃ before part after, text = before ++ (part ++ after) ∧ p.Matches before part after := by
  have hrun : ∀ k,
      ((plan text p).run (text.length + 1) (1 <<< (text.length + 1) - 1)).testBit k = true ↔
        ∃ i, (1 <<< (text.length + 1) - 1).testBit i = true ∧ Reaches text p.Matches i k :=
    carries_run (Nat.le_succ text.length) p _ fun _ => testBit_places.mp
  rw [isMatch, bne_iff_ne]
  constructor
  · intro h
    obtain ⟨k, hk⟩ := Nat.exists_testBit_of_ne_zero h
    obtain ⟨i, -, before, part, after, htext, -, -, hmatches⟩ := (hrun k).mp hk
    exact ⟨before, part, after, htext, hmatches⟩
  · rintro ⟨before, part, after, htext, hmatches⟩ hzero
    have hk := (hrun (before.length + part.length)).mpr ⟨before.length, testBit_places.mpr ?_,
      before, part, after, htext, rfl, rfl, hmatches⟩
    · rw [hzero, Nat.zero_testBit] at hk
      cases hk
    · rw [htext, List.length_append]
      exact Nat.le_add_right _ _

end Matcher

end Pattern

end RecordSchema
