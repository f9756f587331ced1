import RecordSchema.Proofs.Text.Split
import RecordSchema.Proofs.Unicode.Letters
import RecordSchema.Rule.Check

/-!
# Qualified names

A fully qualified name is a list of labels with dots between them, and a final dot changes
nothing. The labels of a text are those that spell it, since no label holds a dot; names may then
be taken apart and put together label by label (`qualified_names`).
-/

namespace RecordSchema

namespace Host

open Unicode

-- ---------------------------------------------------------------------------
-- Labels
-- ---------------------------------------------------------------------------

/-- Letters, numbers and hyphens of any script, with no hyphen at either end. -/
structure IsLabel (label : List Char) : Prop where
  nonempty : 1 ≤ label.length
  length : label.length ≤ 63
  chars : ∀ c ∈ label, c = '-' ∨ alphanumeric.contains c = true
  head : label.head? ≠ some '-'
  last : label.getLast? ≠ some '-'

/-- Two letters or more, or something in ASCII form behind its prefix. -/
inductive IsTopLevel : List Char → Prop
  | letters (hlength : 2 ≤ label.length) (h : ∀ c ∈ label, alphabetic.contains c = true) :
      IsTopLevel label
  | ace (hx : x = 'x' ∨ x = 'X') (hn : n = 'n' ∨ n = 'N')
      (hbytes : 4 < (String.ofList (x :: n :: '-' :: '-' :: rest)).utf8ByteSize) :
      IsTopLevel (x :: n :: '-' :: '-' :: rest)

theorem isLabelChar_iff : isLabelChar c = true ↔ c = '-' ∨ alphanumeric.contains c = true := by
  rw [isLabelChar, Bool.or_eq_true, beq_iff_eq]

theorem isLabel_iff : isLabel label = true ↔ IsLabel label := by
  simp only [isLabel, Bool.and_eq_true, bne_iff_ne, List.all_eq_true, isLabelChar_iff,
    decide_eq_true_eq, Bool.not_eq_true', List.isEmpty_eq_false_iff]
  constructor
  · rintro ⟨⟨⟨⟨hne, hlength⟩, hhead⟩, hlast⟩, hchars⟩
    exact ⟨List.length_pos_iff.mpr hne, hlength, hchars, hhead, hlast⟩
  · rintro ⟨hne, hlength, hchars, hhead, hlast⟩
    exact ⟨⟨⟨⟨List.length_pos_iff.mp hne, hlength⟩, hhead⟩, hlast⟩, hchars⟩

theorem IsLabel.no_dot (h : IsLabel label) : '.' ∉ label := by
  intro hdot
  rcases h.chars '.' hdot with hc | hc
  · cases hc
  · rw [contains_alphanumeric (by decide)] at hc
    cases hc

theorem toLower_eq_or (c : Char) :
    c.toLower = c ∨ 0x41 ≤ c.toNat ∧ c.toLower.toNat = c.toNat + 0x20 := by
  by_cases h : c.val ≥ 'A'.val ∧ c.val ≤ 'Z'.val
  · have hlower : c.toLower.toNat = (c.val + 0x20).toNat := congrArg Char.toNat (dif_pos h)
    obtain ⟨hge, hle⟩ := h
    have hle : c.val.toNat ≤ 'Z'.toNat := hle
    refine .inr ⟨hge, ?_⟩
    rw [hlower, UInt32.toNat_add]
    exact Nat.mod_eq_of_lt (Nat.lt_of_le_of_lt (Nat.add_le_add_right hle _) (by decide))
  · exact .inl (dif_neg h)

theorem toLower_eq_letter_iff {lower upper : Char} (hcode : lower.toNat = upper.toNat + 0x20)
    (hupper : upper.toLower = lower) (hlower : lower.toLower = lower) :
    c.toLower = lower ↔ c = lower ∨ c = upper := by
  constructor
  · rintro rfl
    rcases toLower_eq_or c with h | ⟨-, h⟩
    · exact .inl h.symm
    · exact .inr (Char.toNat_inj.mp (Nat.add_right_cancel (h.symm.trans hcode)))
  · rintro (rfl | rfl)
    · exact hlower
    · exact hupper

theorem toLower_eq_hyphen_iff : c.toLower = '-' ↔ c = '-' := by
  constructor
  · intro hc
    rcases toLower_eq_or c with h | ⟨hge, h⟩
    · exact h.symm.trans hc
    · rw [hc] at h
      have hcode : '-'.toNat = 0x2D := rfl
      omega
  · rintro rfl
    decide

theorem hasAcePrefix_iff : hasAcePrefix label = true ↔ ∃ x n rest,
    (x = 'x' ∨ x = 'X') ∧ (n = 'n' ∨ n = 'N') ∧ label = x :: n :: '-' :: '-' :: rest := by
  match label with
  | [] | [_] | [_, _] | [_, _, _] => simp [hasAcePrefix]
  | a :: b :: c :: d :: rest =>
    have hx : a.toLower = 'x' ↔ a = 'x' ∨ a = 'X' :=
      toLower_eq_letter_iff (by decide) (by decide) (by decide)
    have hn : b.toLower = 'n' ↔ b = 'n' ∨ b = 'N' :=
      toLower_eq_letter_iff (by decide) (by decide) (by decide)
    simp only [hasAcePrefix, List.take_succ_cons, List.take_zero, List.map_cons, List.map_nil,
      beq_iff_eq, List.cons.injEq, and_true, hx, hn, toLower_eq_hyphen_iff]
    constructor
    · rintro ⟨ha, hb, rfl, rfl⟩
      exact ⟨a, b, rest, ha, hb, rfl, rfl, rfl, rfl, rfl⟩
    · rintro ⟨_, _, _, ha, hb, rfl, rfl, rfl, rfl, rfl⟩
      exact ⟨ha, hb, rfl, rfl⟩

theorem isTopLevel_iff : isTopLevel label = true ↔ IsTopLevel label := by
  simp only [isTopLevel, Bool.or_eq_true, Bool.and_eq_true, decide_eq_true_eq, List.all_eq_true,
    Text.utf8Length_eq, hasAcePrefix_iff]
  constructor
  · rintro (⟨hlength, h⟩ | ⟨hbytes, x, n, rest, hx, hn, rfl⟩)
    · exact .letters hlength h
    · exact .ace hx hn hbytes
  · rintro (⟨hlength, h⟩ | ⟨hx, hn, hbytes⟩)
    · exact .inl ⟨hlength, h⟩
    · exact .inr ⟨hbytes, _, _, _, hx, hn, rfl⟩

-- ---------------------------------------------------------------------------
-- Names
-- ---------------------------------------------------------------------------

/-- Labels with a dot between each two. -/
def dotted (labels : List (List Char)) : List Char := ['.'].intercalate labels

theorem dotted_cons (label : List Char) (h : labels ≠ []) :
    dotted (label :: labels) = label ++ '.' :: dotted labels := by
  obtain ⟨second, rest, rfl⟩ := List.exists_cons_of_ne_nil h
  rw [dotted, List.intercalate_cons_cons, List.append_assoc, List.singleton_append, dotted]

/-- Two labels or more under a top level, in at most 253 bytes. The dot makes one byte at
least. -/
structure IsQualified (labels : List (List Char)) : Prop where
  length : 2 ≤ labels.length
  valid : ∀ label ∈ labels, IsLabel label
  topLevel : ∃ last ∈ labels.getLast?, IsTopLevel last
  bytes : (String.ofList (dotted labels)).utf8ByteSize ≤ 253

theorem IsQualified.ne_nil (h : IsQualified labels) : labels ≠ [] :=
  List.length_pos_iff.mp (Nat.lt_of_lt_of_le Nat.two_pos h.length)

theorem IsQualified.splitOn_dotted (h : IsQualified labels) :
    Text.splitOn '.' (dotted labels) = labels :=
  Text.splitOn_eq_iff.mpr ⟨rfl, h.ne_nil, fun label hlabel => (h.valid label hlabel).no_dot⟩

theorem bytes_append_dot (before after : List Char) :
    (String.ofList (before ++ '.' :: after)).utf8ByteSize =
      (String.ofList before).utf8ByteSize + (1 + (String.ofList after).utf8ByteSize) := by
  rw [String.ofList_append, String.utf8ByteSize_append, String.ofList_cons,
    String.utf8ByteSize_append]
  rfl

theorem IsQualified.tail (h : IsQualified (first :: labels)) (hlength : 2 ≤ labels.length) :
    IsQualified labels where
  length := hlength
  valid label hlabel := h.valid label (List.mem_cons_of_mem _ hlabel)
  topLevel := by
    obtain ⟨second, rest, rfl⟩ := List.exists_cons_of_length_pos (Nat.zero_lt_of_lt hlength)
    simpa only [List.getLast?_cons_cons] using h.topLevel
  bytes := by
    have hbytes := h.bytes
    rw [dotted_cons first (List.length_pos_iff.mp (Nat.zero_lt_of_lt hlength)),
      bytes_append_dot] at hbytes
    omega

theorem IsQualified.cons (h : IsQualified labels) (hfirst : IsLabel first)
    (hbytes : (String.ofList (dotted (first :: labels))).utf8ByteSize ≤ 253) :
    IsQualified (first :: labels) where
  length := Nat.le_succ_of_le h.length
  valid := List.forall_mem_cons.mpr ⟨hfirst, h.valid⟩
  topLevel := by
    obtain ⟨second, rest, rfl⟩ := List.exists_cons_of_ne_nil h.ne_nil
    simpa only [List.getLast?_cons_cons] using h.topLevel
  bytes := hbytes

-- ---------------------------------------------------------------------------
-- The final dot
-- ---------------------------------------------------------------------------

theorem dropFinalDot_concat (cs : List Char) : dropFinalDot (cs ++ ['.']) = cs := by
  rw [dropFinalDot, List.getLast?_concat, if_pos rfl, List.dropLast_concat]

theorem dropFinalDot_of_ne (h : cs.getLast? ≠ some '.') : dropFinalDot cs = cs := if_neg h

theorem dropFinalDot_append (before : List Char) (h : cs ≠ []) :
    dropFinalDot (before ++ cs) = before ++ dropFinalDot cs := by
  have hlast : (before ++ cs).getLast? = cs.getLast? := by
    rw [List.getLast?_append, List.getLast?_eq_some_getLast h, Option.some_or]
  rw [dropFinalDot, dropFinalDot, hlast, List.dropLast_append_of_ne_nil h]
  split <;> rfl

theorem eq_dropFinalDot (cs : List Char) :
    cs = dropFinalDot cs ∨ cs = dropFinalDot cs ++ ['.'] := by
  by_cases h : cs.getLast? = some '.'
  · obtain ⟨before, rfl⟩ := List.getLast?_eq_some_iff.mp h
    rw [dropFinalDot_concat]
    exact .inr rfl
  · exact .inl (dropFinalDot_of_ne h).symm

/-- No name ends in a dot by itself: its last part would be empty. -/
theorem IsQualified.dropFinalDot_dotted (h : IsQualified labels) :
    dropFinalDot (dotted labels) = dotted labels := by
  refine dropFinalDot_of_ne fun hdot => ?_
  obtain ⟨before, hbefore⟩ := List.getLast?_eq_some_iff.mp hdot
  have hparts := h.splitOn_dotted
  rw [hbefore, Text.splitOn_append] at hparts
  have hempty : IsLabel [] := h.valid [] (hparts ▸ List.mem_append_right _ List.mem_cons_self)
  exact absurd hempty.nonempty (by decide)

theorem dotted_splitOn (cs : List Char) : dotted (Text.splitOn '.' cs) = cs :=
  (Text.splitOn_eq_iff.mp rfl).1.symm

theorem isFullyQualified_iff :
    isFullyQualified cs = true ↔ IsQualified (Text.splitOn '.' (dropFinalDot cs)) := by
  simp only [isFullyQualified, Bool.and_eq_true, decide_eq_true_eq, List.all_eq_true, isLabel_iff,
    Option.any_eq_true, isTopLevel_iff, Text.utf8Length_eq]
  generalize dropFinalDot cs = name
  constructor
  · rintro ⟨⟨⟨⟨-, hbytes⟩, hlength⟩, hvalid⟩, htop⟩
    exact ⟨hlength, hvalid, htop, by rwa [dotted_splitOn]⟩
  · rintro ⟨hlength, hvalid, htop, hbytes⟩
    rw [dotted_splitOn] at hbytes
    -- Two parts have a dot between them, so the name is not empty.
    have hdot : '.' ∈ name := Text.two_le_length_splitOn_iff.mp hlength
    exact ⟨⟨⟨⟨by simpa using List.ne_nil_of_mem hdot, hbytes⟩, hlength⟩, hvalid⟩, htop⟩

/-- The labels of a text are those that spell it. -/
theorem isFullyQualified_iff_exists : isFullyQualified cs = true ↔
    ∃ labels, IsQualified labels ∧ (cs = dotted labels ∨ cs = dotted labels ++ ['.']) := by
  rw [isFullyQualified_iff]
  constructor
  · intro h
    refine ⟨_, h, ?_⟩
    rw [dotted_splitOn]
    exact eq_dropFinalDot cs
  · rintro ⟨labels, h, rfl | rfl⟩
    · rwa [h.dropFinalDot_dotted, h.splitOn_dotted]
    · rwa [dropFinalDot_concat, h.splitOn_dotted]

theorem isFullyQualified_concat (h : cs.getLast? ≠ some '.') :
    isFullyQualified (cs ++ ['.']) = isFullyQualified cs := by
  rw [Bool.eq_iff_iff, isFullyQualified_iff, isFullyQualified_iff, dropFinalDot_concat,
    dropFinalDot_of_ne h]

theorem splitOn_dropFinalDot_append (hfirst : '.' ∉ first) (h : cs ≠ []) :
    Text.splitOn '.' (dropFinalDot (first ++ '.' :: cs)) =
      first :: Text.splitOn '.' (dropFinalDot cs) := by
  rw [List.append_cons, dropFinalDot_append _ h, List.append_assoc, List.singleton_append,
    Text.splitOn_append, Text.splitOn_of_not_mem hfirst, List.singleton_append]

/-- Something has to follow the second label and its dot, lest that dot be the final one. -/
theorem isFullyQualified_of_append (hfirst : '.' ∉ first) (hothers : others ≠ [])
    (h : isFullyQualified (first ++ '.' :: (second ++ '.' :: others)) = true) :
    isFullyQualified (second ++ '.' :: others) = true := by
  rw [isFullyQualified_iff, splitOn_dropFinalDot_append hfirst (by simp)] at h
  rw [isFullyQualified_iff]
  refine h.tail (Text.two_le_length_splitOn_iff.mpr ?_)
  rw [List.append_cons, dropFinalDot_append _ hothers]
  simp

theorem bytes_dropFinalDot_le (hname : cs = name ∨ cs = name ++ ['.']) :
    (String.ofList (dropFinalDot cs)).utf8ByteSize ≤ (String.ofList name).utf8ByteSize := by
  rcases hname with rfl | rfl
  · rcases eq_dropFinalDot cs with h | h
    · exact Nat.le_of_eq (by rw [← h])
    · have hbytes := bytes_append_dot (dropFinalDot cs) []
      rw [← h] at hbytes
      omega
  · exact Nat.le_of_eq (by rw [dropFinalDot_concat])

theorem isFullyQualified_append (hfirst : IsLabel first) (hname : cs = name ∨ cs = name ++ ['.'])
    (hbytes : (String.ofList (first ++ '.' :: name)).utf8ByteSize ≤ 253)
    (h : isFullyQualified cs = true) : isFullyQualified (first ++ '.' :: cs) = true := by
  have hne : cs ≠ [] := by
    rintro rfl
    cases h
  rw [isFullyQualified_iff] at h ⊢
  rw [splitOn_dropFinalDot_append hfirst.no_dot hne]
  refine h.cons hfirst ?_
  rw [dotted_cons first h.ne_nil, dotted_splitOn, bytes_append_dot]
  rw [bytes_append_dot] at hbytes
  exact Nat.le_trans (Nat.add_le_add_left (Nat.add_le_add_left (bytes_dropFinalDot_le hname) _) _)
    hbytes

end Host

-- ---------------------------------------------------------------------------
-- The check
-- ---------------------------------------------------------------------------

namespace Check

open Host

theorem qualified_names (s : String) :
    (fullyQualifiedName.accepts s = true ↔ ∃ labels, IsQualified labels ∧
      (s.toList = dotted labels ∨ s.toList = dotted labels ++ ['.'])) ∧
    (s.toList.getLast? ≠ some '.' →
      fullyQualifiedName.accepts (s ++ ".") = fullyQualifiedName.accepts s) ∧
    (∀ first rest : String, s = first ++ "." ++ rest → '.' ∉ first.toList →
      (∃ second others, rest = second ++ "." ++ others ∧ others ≠ "") →
      fullyQualifiedName.accepts s = true → fullyQualifiedName.accepts rest = true) ∧
    (∀ first name : String, IsLabel first.toList → (s = name ∨ s = name ++ ".") →
      (first ++ "." ++ name).utf8ByteSize ≤ 253 →
      fullyQualifiedName.accepts s = true →
      fullyQualifiedName.accepts (first ++ "." ++ s) = true) := by
  refine ⟨isFullyQualified_iff_exists, fun h => ?_, ?_, ?_⟩
  · simp only [accepts, String.toList_append]
    exact isFullyQualified_concat h
  · rintro first rest rfl hfirst ⟨second, others, rfl, hothers⟩ h
    simp only [accepts, String.toList_append, String.reduceToList, List.append_assoc,
      List.singleton_append] at h ⊢
    exact isFullyQualified_of_append hfirst (by simpa using hothers) h
  · intro first name hfirst hname hbytes h
    have hname : s.toList = name.toList ∨ s.toList = name.toList ++ ['.'] := by
      rcases hname with rfl | rfl
      · exact .inl rfl
      · exact .inr String.toList_append
    rw [← String.ofList_toList (s := first ++ "." ++ name)] at hbytes
    simp only [accepts, String.toList_append, String.reduceToList, List.append_assoc,
      List.singleton_append] at h hbytes ⊢
    exact isFullyQualified_append hfirst hname hbytes h

end Check

end RecordSchema
