import RecordSchema.Text.Split

/-!
# Splitting and joining

Splitting at a mark undoes joining with it: the parts of a text are the only parts without the
mark that give the text when joined (`splitOn_eq_iff`).
-/

namespace RecordSchema

namespace Text

-- ---------------------------------------------------------------------------
-- Parts
-- ---------------------------------------------------------------------------

theorem splitOn_cons_self (mark : Char) (rest : List Char) :
    splitOn mark (mark :: rest) = [] :: splitOn mark rest := by
  rw [splitOn, if_pos rfl]

theorem splitOn_cons_of_ne (hc : c ≠ mark) (hrest : splitOn mark rest = part :: parts) :
    splitOn mark (c :: rest) = (c :: part) :: parts := by
  rw [splitOn, if_neg hc, hrest]

theorem splitOn_eq (mark : Char) (cs : List Char) : splitOn mark cs = cs.splitOn mark := by
  induction cs with
  | nil => rfl
  | cons c rest ih =>
    rw [List.splitOn_cons_eq_if_modifyHead, ← ih]
    by_cases hc : c = mark
    · rw [if_pos (beq_iff_eq.mpr hc), hc, splitOn_cons_self]
    · obtain ⟨part, parts, hrest⟩ := List.exists_cons_of_ne_nil (splitOn_ne_nil mark rest)
      rw [if_neg (mt beq_iff_eq.mp hc), splitOn_cons_of_ne hc hrest, hrest, List.modifyHead_cons]

/-- The parts hold the text without its marks. -/
theorem flatten_splitOn (mark : Char) (cs : List Char) :
    (splitOn mark cs).flatten = cs.filter (· != mark) := by
  induction cs with
  | nil => rfl
  | cons c rest ih =>
    by_cases hc : c = mark
    · rw [hc, splitOn_cons_self, List.flatten_cons, List.nil_append, ih,
        List.filter_cons_of_neg (by simp)]
    · obtain ⟨part, parts, hrest⟩ := List.exists_cons_of_ne_nil (splitOn_ne_nil mark rest)
      rw [splitOn_cons_of_ne hc hrest, List.flatten_cons, List.cons_append, ← List.flatten_cons,
        ← hrest, ih, List.filter_cons_of_pos (by simpa using hc)]

theorem exists_mem_splitOn_iff : (∃ part ∈ splitOn mark cs, c ∈ part) ↔ c ∈ cs ∧ c ≠ mark := by
  rw [← List.mem_flatten, flatten_splitOn, List.mem_filter, bne_iff_ne]

theorem splitOn_eq_iff : splitOn mark cs = parts ↔
    cs = [mark].intercalate parts ∧ parts ≠ [] ∧ ∀ part ∈ parts, mark ∉ part := by
  constructor
  · rintro rfl
    refine ⟨?_, splitOn_ne_nil mark cs, fun part hpart hmark => ?_⟩
    · rw [splitOn_eq, List.intercalate_splitOn]
    · exact (exists_mem_splitOn_iff.mp ⟨part, hpart, hmark⟩).2 rfl
  · rintro ⟨rfl, hne, hparts⟩
    rw [splitOn_eq, List.splitOn_intercalate mark hparts hne]

theorem splitOn_of_not_mem (h : mark ∉ cs) : splitOn mark cs = [cs] := by
  rw [splitOn_eq, List.splitOn_eq_singleton h]

theorem splitOn_append (mark : Char) (before rest : List Char) :
    splitOn mark (before ++ mark :: rest) = splitOn mark before ++ splitOn mark rest := by
  rw [splitOn_eq, splitOn_eq, splitOn_eq, List.splitOn_append_cons_self]

theorem two_le_length_splitOn_iff : 2 ≤ (splitOn mark cs).length ↔ mark ∈ cs := by
  constructor
  · intro h
    by_cases hmark : mark ∈ cs
    · exact hmark
    · rw [splitOn_of_not_mem hmark] at h
      exact absurd h (Nat.lt_irrefl 1)
  · intro h
    obtain ⟨before, rest, rfl, hbefore⟩ := List.eq_append_cons_of_mem h
    rw [splitOn_append, splitOn_of_not_mem hbefore, List.singleton_append]
    exact Nat.succ_le_succ (List.length_pos_iff.mpr (splitOn_ne_nil mark rest))

-- ---------------------------------------------------------------------------
-- Bytes
-- ---------------------------------------------------------------------------

theorem foldl_utf8Size (n : Nat) (cs : List Char) :
    cs.foldl (fun n c => n + c.utf8Size) n = n + (String.ofList cs).utf8ByteSize := by
  induction cs generalizing n with
  | nil => rfl
  | cons c rest ih =>
    rw [List.foldl_cons, ih, String.ofList_cons, String.utf8ByteSize_append,
      String.utf8ByteSize_singleton, Nat.add_assoc]

theorem utf8Length_eq (cs : List Char) : utf8Length cs = (String.ofList cs).utf8ByteSize := by
  rw [utf8Length, foldl_utf8Size, Nat.zero_add]

theorem utf8EncodeChar_of_isAscii {c : Char} (h : isAscii c = true) :
    String.utf8EncodeChar c = [UInt8.ofNat c.toNat] := by
  have hcode : c.toNat < 0x80 := of_decide_eq_true h
  have hsize : c.utf8Size = 1 := Char.utf8Size_eq_one_iff.mpr (Nat.le_of_lt_succ hcode)
  exact String.utf8EncodeChar_eq_singleton hsize

/-- An ASCII text is one byte for each character. -/
theorem data_toUTF8_of_ascii {cs : List Char} (h : ∀ c ∈ cs, isAscii c = true) :
    (String.ofList cs).toUTF8.data.toList = cs.map fun c => UInt8.ofNat c.toNat := by
  have hbytes : cs.flatMap String.utf8EncodeChar = cs.map fun c : Char => UInt8.ofNat c.toNat := by
    induction cs with
    | nil => rfl
    | cons c rest ih =>
      obtain ⟨hc, hrest⟩ := List.forall_mem_cons.mp h
      rw [List.flatMap_cons, utf8EncodeChar_of_isAscii hc, ih hrest, List.singleton_append,
        List.map_cons]
  rw [String.toUTF8, String.toByteArray_ofList, List.utf8Encode, List.data_toByteArray, hbytes]

theorem utf8ByteSize_of_ascii {cs : List Char} (h : ∀ c ∈ cs, isAscii c = true) :
    (String.ofList cs).utf8ByteSize = cs.length := by
  rw [← String.size_toByteArray, ← String.toUTF8, ByteArray.size, ← Array.length_toList,
    data_toUTF8_of_ascii h, List.length_map]

end Text

end RecordSchema
