import Mathlib.Data.List.Forall2
import Mathlib.Data.List.Perm.Subperm
import RecordSchema.OrderedMap

/-!
# Reading ordered maps

What `get?` answers in terms of the entries and the keys, what is left of a map when
some of its keys are dropped, and where repeated keys end up: at the place of the first,
with the value of the last (`keys_collapse`, `lookup_collapse`). Maps that differ in the order
of their entries are `Matched`.
-/

namespace RecordSchema

-- ---------------------------------------------------------------------------
-- Entry lists
-- ---------------------------------------------------------------------------

theorem Entries.lookup_eq_none_iff_not_mem {entries : List (String × α)} :
    entries.lookup key = none ↔ key ∉ entries.map Prod.fst := by
  rw [List.lookup_eq_none_iff]
  constructor
  · intro h hm
    obtain ⟨entry, he, rfl⟩ := List.mem_map.mp hm
    simpa using h entry he
  · intro h entry he
    have hne : key ≠ entry.1 := fun heq => h (heq ▸ List.mem_map_of_mem he)
    simpa using hne

theorem Entries.mem_of_lookup {entries : List (String × α)} (h : entries.lookup key = some value) :
    (key, value) ∈ entries := by
  induction entries with
  | nil => simp at h
  | cons entry rest ih =>
    obtain ⟨k, v⟩ := entry
    by_cases hk : key = k
    · subst hk
      simp only [List.lookup_cons_self, Option.some.injEq] at h
      simp [h]
    · have hb : (key == k) = false := by simpa using hk
      rw [List.lookup_cons, hb] at h
      exact List.mem_cons_of_mem _ (ih h)

/-- Keys that are distinct leave no choice of the entry. -/
theorem Entries.lookup_eq_some_iff_mem {entries : List (String × α)}
    (hn : (entries.map Prod.fst).Nodup) :
    entries.lookup key = some value ↔ (key, value) ∈ entries := by
  refine ⟨Entries.mem_of_lookup, ?_⟩
  induction entries with
  | nil => simp
  | cons entry rest ih =>
    obtain ⟨k, v⟩ := entry
    obtain ⟨hk, hn⟩ := List.nodup_cons.mp hn
    intro hm
    rcases List.mem_cons.mp hm with heq | ht
    · cases heq
      exact List.lookup_cons_self
    · have hne : key ≠ k := by
        rintro rfl
        exact hk (List.mem_map.mpr ⟨_, ht, rfl⟩)
      have hb : (key == k) = false := by simpa using hne
      rw [List.lookup_cons, hb]
      exact ih hn ht

theorem Entries.lookup_filter (keep : String → Bool) (entries : List (String × α)) :
    (entries.filter fun entry => keep entry.1).lookup key =
      if keep key then entries.lookup key else none := by
  induction entries with
  | nil => simp
  | cons entry rest ih =>
    obtain ⟨k, v⟩ := entry
    by_cases hk : key = k
    · subst hk
      by_cases hkeep : keep key
      · simp [hkeep]
      · simpa [hkeep] using ih
    · have hb : (key == k) = false := by simpa using hk
      by_cases hkeep : keep k
      · simp only [hkeep, List.filter_cons_of_pos, List.lookup_cons, hb]
        exact ih
      · simp only [hkeep, Bool.false_eq_true, not_false_eq_true, List.filter_cons_of_neg,
          List.lookup_cons, hb]
        exact ih

theorem Entries.filter_key {entries : List (String × α)} (hn : (entries.map Prod.fst).Nodup)
    (key : String) :
    (entries.filter fun entry => entry.1 == key) =
      (entries.lookup key).toList.map fun value => (key, value) := by
  induction entries with
  | nil => rfl
  | cons entry rest ih =>
    obtain ⟨k, v⟩ := entry
    obtain ⟨hk, hn⟩ := List.nodup_cons.mp hn
    by_cases hkey : k = key
    · subst hkey
      have hrest : rest.lookup k = none := Entries.lookup_eq_none_iff_not_mem.mpr hk
      rw [List.filter_cons_of_pos (by simp), ih hn, hrest, List.lookup_cons_self]
      rfl
    · have hb : (key == k) = false := by simpa using Ne.symm hkey
      rw [List.filter_cons_of_neg (by simpa using hkey), ih hn, List.lookup_cons, hb]

theorem Entries.filter_put (key : String) (value : α) (entries : List (String × α)) :
    ((Entries.put key value entries).filter fun entry => entry.1 != key) =
      entries.filter fun entry => entry.1 != key := by
  induction entries with
  | nil => simp [Entries.put]
  | cons entry rest ih =>
    obtain ⟨k, v⟩ := entry
    rw [Entries.put]
    split
    · rename_i hk
      simp [hk]
    · rw [List.filter_cons, List.filter_cons, ih]

theorem Entries.lookup_map (f : α → β) (entries : List (String × α)) :
    (entries.map fun entry => (entry.1, f entry.2)).lookup key = (entries.lookup key).map f := by
  induction entries with
  | nil => rfl
  | cons entry rest ih =>
    rw [List.map_cons, List.lookup_cons, List.lookup_cons]
    split
    · rfl
    · exact ih

theorem Entries.put_of_not_mem {entries : List (String × α)} (h : key ∉ entries.map Prod.fst) :
    Entries.put key value entries = entries ++ [(key, value)] := by
  induction entries with
  | nil => rfl
  | cons entry rest ih =>
    obtain ⟨k, v⟩ := entry
    have hk : k ≠ key := fun heq => h (List.mem_cons.mpr (.inl heq.symm))
    have hrest : key ∉ rest.map Prod.fst := fun hm => h (List.mem_cons_of_mem _ hm)
    rw [Entries.put, if_neg (by simpa using hk), ih hrest, List.cons_append]

theorem Entries.foldl_put_of_nodup (entries : List (String × α)) {acc : List (String × α)}
    (h : ((acc ++ entries).map Prod.fst).Nodup) :
    entries.foldl (fun acc entry => Entries.put entry.1 entry.2 acc) acc = acc ++ entries := by
  induction entries generalizing acc with
  | nil => simp
  | cons entry rest ih =>
    have hnew : entry.1 ∉ acc.map Prod.fst := by
      rw [List.map_append, List.nodup_append] at h
      exact fun hm => h.2.2 _ hm _ (List.mem_cons_self) rfl
    rw [List.foldl_cons, Entries.put_of_not_mem hnew, ih (by simpa using h), List.append_assoc]
    rfl

/-- Distinct keys are kept as they are. -/
theorem Entries.collapse_of_nodup {entries : List (String × α)}
    (h : (entries.map Prod.fst).Nodup) : Entries.collapse entries = entries :=
  Entries.foldl_put_of_nodup entries h

theorem Entries.lookup_perm {entries others : List (String × α)}
    (hn : (entries.map Prod.fst).Nodup) (h : entries.Perm others) (key : String) :
    entries.lookup key = others.lookup key := by
  have hn' : (others.map Prod.fst).Nodup := (h.map Prod.fst).nodup_iff.mp hn
  ext value
  rw [Entries.lookup_eq_some_iff_mem hn, Entries.lookup_eq_some_iff_mem hn', h.mem_iff]

-- ---------------------------------------------------------------------------
-- Repeated keys
-- ---------------------------------------------------------------------------

theorem Entries.keys_foldl_put (entries : List (String × α)) (acc : List (String × α)) :
    (entries.foldl (fun acc entry => Entries.put entry.1 entry.2 acc) acc).map Prod.fst =
      acc.map Prod.fst ++
        ((entries.map Prod.fst).filter fun key => key ∉ acc.map Prod.fst).eraseDups := by
  induction entries generalizing acc with
  | nil => simp
  | cons entry rest ih =>
    rw [List.foldl_cons, ih, Entries.keys_put, List.map_cons]
    by_cases hmem : entry.1 ∈ acc.map Prod.fst
    · rw [if_pos hmem, List.filter_cons_of_neg (by simpa using hmem)]
    · rw [if_neg hmem, List.filter_cons_of_pos (by simpa using hmem), List.eraseDups_cons,
        List.filter_filter, List.append_assoc, List.singleton_append]
      congr 3
      refine List.filter_congr fun key _ => ?_
      rw [Bool.eq_iff_iff]
      simp [and_comm]

/-- Each key is listed where it first comes. -/
theorem Entries.keys_collapse (entries : List (String × α)) :
    (Entries.collapse entries).map Prod.fst = (entries.map Prod.fst).eraseDups := by
  rw [Entries.collapse, Entries.keys_foldl_put]
  simp

theorem Entries.lookup_foldl_put (key : String) (entries : List (String × α))
    (acc : List (String × α)) :
    (entries.foldl (fun acc entry => Entries.put entry.1 entry.2 acc) acc).lookup key =
      (((entries.filter fun entry => entry.1 == key).getLast?).map Prod.snd).or
        (acc.lookup key) := by
  induction entries generalizing acc with
  | nil => simp
  | cons entry rest ih =>
    rw [List.foldl_cons, ih]
    by_cases hk : entry.1 = key
    · subst hk
      rw [Entries.lookup_put_self, List.filter_cons_of_pos (by simp), List.getLast?_cons]
      cases (rest.filter fun other => other.1 == entry.1).getLast? <;> rfl
    · rw [Entries.lookup_put_of_ne _ _ (Ne.symm hk), List.filter_cons_of_neg (by simpa using hk)]

/-- Each key keeps the value that it was given last. -/
theorem Entries.lookup_collapse (entries : List (String × α)) (key : String) :
    (Entries.collapse entries).lookup key =
      ((entries.filter fun entry => entry.1 == key).getLast?).map Prod.snd := by
  rw [Entries.collapse, Entries.lookup_foldl_put, List.lookup_nil, Option.or_none]

theorem Entries.mem_of_mem_collapse {entries : List (String × α)}
    (h : entry ∈ Entries.collapse entries) : entry ∈ entries := by
  have hlookup := (Entries.lookup_eq_some_iff_mem (Entries.nodup_collapse entries)).mpr h
  rw [Entries.lookup_collapse, Option.map_eq_some_iff] at hlookup
  obtain ⟨other, hlast, hvalue⟩ := hlookup
  obtain ⟨hmem, hkey⟩ := List.mem_filter.mp (List.mem_of_getLast? hlast)
  rwa [← Prod.ext (eq_of_beq hkey) hvalue]

-- ---------------------------------------------------------------------------
-- Related entries
-- ---------------------------------------------------------------------------

/-- The same keys in the same order, with related values. -/
def Entries.Related (R : α → β → Prop) : List (String × α) → List (String × β) → Prop :=
  List.Forall₂ fun x y => x.1 = y.1 ∧ R x.2 y.2

theorem Entries.Related.keys_eq {xs : List (String × α)} {ys : List (String × β)}
    (h : Entries.Related R xs ys) : xs.map Prod.fst = ys.map Prod.fst := by
  induction h with
  | nil => rfl
  | cons hxy _ ih => rw [List.map_cons, List.map_cons, hxy.1, ih]

theorem Entries.Related.put {xs : List (String × α)} {ys : List (String × β)}
    (h : Entries.Related R xs ys) (hvalue : R x y) :
    Entries.Related R (Entries.put key x xs) (Entries.put key y ys) := by
  induction h with
  | nil => exact .cons ⟨rfl, hvalue⟩ .nil
  | @cons a b _ _ hab hrest ih =>
    simp only [Entries.put, hab.1]
    split
    · exact .cons ⟨rfl, hvalue⟩ hrest
    · exact .cons ⟨rfl, hab.2⟩ ih

theorem Entries.Related.foldl_put {xs acc : List (String × α)} {ys others : List (String × β)}
    (h : Entries.Related R xs ys) (hacc : Entries.Related R acc others) :
    Entries.Related R (xs.foldl (fun acc entry => Entries.put entry.1 entry.2 acc) acc)
      (ys.foldl (fun acc entry => Entries.put entry.1 entry.2 acc) others) := by
  induction h generalizing acc others with
  | nil => exact hacc
  | cons hxy _ ih =>
    rw [List.foldl_cons, List.foldl_cons, ← hxy.1]
    exact ih (hacc.put hxy.2)

theorem Entries.Related.lookup {xs : List (String × α)} {ys : List (String × β)}
    (h : Entries.Related R xs ys) (key : String) :
    Option.Rel R (xs.lookup key) (ys.lookup key) := by
  induction h with
  | nil => exact .none
  | cons hxy _ ih =>
    rw [List.lookup_cons, List.lookup_cons, ← hxy.1]
    split
    · exact .some hxy.2
    · exact ih

/-- Repeated keys are the same on both sides. -/
theorem Entries.Related.collapse {xs : List (String × α)} {ys : List (String × β)}
    (h : Entries.Related R xs ys) : Entries.Related R (Entries.collapse xs) (Entries.collapse ys) :=
  h.foldl_put .nil

theorem Entries.Related.lookup_eq_bind {f : α → Option β} {xs : List (String × α)}
    {ys : List (String × β)} (h : Entries.Related (fun x y => f x = some y) xs ys)
    (key : String) : ys.lookup key = (xs.lookup key).bind f := by
  have hvalue := h.lookup key
  generalize xs.lookup key = x, ys.lookup key = y at hvalue
  cases hvalue with
  | none => rfl
  | some hxy => exact hxy.symm

theorem Entries.related_eq_iff {f : α → β} {xs : List (String × α)} {ys : List (String × β)} :
    Entries.Related (fun x y => f x = y) xs ys ↔ (xs.map fun x => (x.1, f x.2)) = ys := by
  rw [← List.forall₂_eq_eq_eq, List.forall₂_map_left_iff]
  simp only [Entries.Related, Prod.ext_iff]

theorem Entries.map_collapse (f : α → β) (entries : List (String × α)) :
    ((Entries.collapse entries).map fun entry => (entry.1, f entry.2)) =
      Entries.collapse (entries.map fun entry => (entry.1, f entry.2)) :=
  Entries.related_eq_iff.mp (Entries.Related.collapse (Entries.related_eq_iff.mpr rfl))

-- ---------------------------------------------------------------------------
-- Entries without their order
-- ---------------------------------------------------------------------------

/-- As many entries, and a partner in the second list for each entry of the first. -/
structure Entries.Matched (R : α → β → Prop) (xs : List (String × α)) (ys : List (String × β)) :
    Prop where
  length_eq : xs.length = ys.length
  partner : ∀ entry ∈ xs, ∃ y, ys.lookup entry.1 = some y ∧ R entry.2 y

section Matched

variable {xs : List (String × α)} {ys : List (String × β)} {zs : List (String × γ)}

theorem Entries.matched_iff : Entries.Matched R xs ys ↔
    xs.length = ys.length ∧ ∀ entry ∈ xs, ∃ y, ys.lookup entry.1 = some y ∧ R entry.2 y :=
  ⟨fun h => ⟨h.length_eq, h.partner⟩, fun h => ⟨h.1, h.2⟩⟩

theorem Entries.Matched.keys_perm (h : Entries.Matched R xs ys) (hn : (xs.map Prod.fst).Nodup) :
    (xs.map Prod.fst).Perm (ys.map Prod.fst) := by
  have hsubset : xs.map Prod.fst ⊆ ys.map Prod.fst := by
    intro key hkey
    obtain ⟨entry, hentry, rfl⟩ := List.mem_map.mp hkey
    obtain ⟨y, hy, -⟩ := h.partner entry hentry
    exact List.mem_map_of_mem (Entries.mem_of_lookup hy)
  exact (List.subperm_of_subset hn hsubset).perm_of_length_le (by simp [h.length_eq])

theorem Entries.Matched.lookup (h : Entries.Matched R xs ys) (hn : (xs.map Prod.fst).Nodup)
    (key : String) : Option.Rel R (xs.lookup key) (ys.lookup key) := by
  cases hx : xs.lookup key with
  | none =>
    have hkey : key ∉ ys.map Prod.fst := fun hmem =>
      Entries.lookup_eq_none_iff_not_mem.mp hx ((h.keys_perm hn).mem_iff.mpr hmem)
    rw [Entries.lookup_eq_none_iff_not_mem.mpr hkey]
    exact .none
  | some x =>
    obtain ⟨y, hy, hxy⟩ := h.partner _ (Entries.mem_of_lookup hx)
    rw [hy]
    exact .some hxy

/-- Distinct keys leave no entry of the second list without a partner. -/
theorem Entries.Matched.symm {S : β → α → Prop} (h : Entries.Matched R xs ys)
    (hn : (xs.map Prod.fst).Nodup) (hRS : ∀ entry ∈ xs, ∀ y, R entry.2 y → S y entry.2) :
    Entries.Matched S ys xs := by
  refine ⟨h.length_eq.symm, fun entry hentry => ?_⟩
  have hn' : (ys.map Prod.fst).Nodup := (h.keys_perm hn).nodup_iff.mp hn
  have hlookup := h.lookup hn entry.1
  rw [(Entries.lookup_eq_some_iff_mem hn').mpr hentry] at hlookup
  cases hx : xs.lookup entry.1 with
  | none =>
    rw [hx] at hlookup
    cases hlookup
  | some x =>
    rw [hx] at hlookup
    cases hlookup with
    | some hxy => exact ⟨x, rfl, hRS _ (Entries.mem_of_lookup hx) _ hxy⟩

theorem Entries.Matched.imp_of_mem {S : α → β → Prop} (h : Entries.Matched R xs ys)
    (hRS : ∀ entry ∈ xs, ∀ y, R entry.2 y → S entry.2 y) : Entries.Matched S xs ys := by
  refine ⟨h.length_eq, fun entry hentry => ?_⟩
  obtain ⟨y, hy, hxy⟩ := h.partner entry hentry
  exact ⟨y, hy, hRS entry hentry y hxy⟩

theorem Entries.Matched.trans {S : β → γ → Prop} {T : α → γ → Prop} (h : Entries.Matched R xs ys)
    (h' : Entries.Matched S ys zs) (hRST : ∀ x y z, R x y → S y z → T x z) :
    Entries.Matched T xs zs := by
  refine ⟨h.length_eq.trans h'.length_eq, fun entry hentry => ?_⟩
  obtain ⟨y, hy, hxy⟩ := h.partner entry hentry
  obtain ⟨z, hz, hyz⟩ := h'.partner _ (Entries.mem_of_lookup hy)
  exact ⟨z, hz, hRST entry.2 y z hxy hyz⟩

theorem Entries.Matched.map {S : γ → δ → Prop} {f : α → γ} {g : β → δ}
    (h : Entries.Matched (fun x y => S (f x) (g y)) xs ys) :
    Entries.Matched S (xs.map fun entry => (entry.1, f entry.2))
      (ys.map fun entry => (entry.1, g entry.2)) := by
  refine ⟨by simp [h.length_eq], fun mapped hmapped => ?_⟩
  obtain ⟨entry, hentry, rfl⟩ := List.mem_map.mp hmapped
  obtain ⟨y, hy, hxy⟩ := h.partner entry hentry
  exact ⟨g y, by rw [Entries.lookup_map, hy]; rfl, hxy⟩

theorem Entries.Related.matched (h : Entries.Related R xs ys) (hn : (xs.map Prod.fst).Nodup) :
    Entries.Matched R xs ys := by
  refine ⟨h.length_eq, fun entry hentry => ?_⟩
  have hlookup := h.lookup entry.1
  rw [(Entries.lookup_eq_some_iff_mem hn).mpr hentry] at hlookup
  generalize ys.lookup entry.1 = partner at hlookup
  cases hlookup with
  | some hxy => exact ⟨_, rfl, hxy⟩

theorem Entries.Matched.of_perm {R : α → α → Prop} {xs ys : List (String × α)} (h : xs.Perm ys)
    (hn : (xs.map Prod.fst).Nodup) (hR : ∀ entry ∈ xs, R entry.2 entry.2) :
    Entries.Matched R xs ys := by
  refine ⟨h.length_eq, fun entry hentry => ⟨entry.2, ?_, hR entry hentry⟩⟩
  rw [← Entries.lookup_perm hn h]
  exact (Entries.lookup_eq_some_iff_mem hn).mpr hentry

end Matched

-- ---------------------------------------------------------------------------
-- Maps
-- ---------------------------------------------------------------------------

namespace OrderedMap

variable {m : OrderedMap α}

theorem get?_eq_none_iff_not_mem : m.get? key = none ↔ key ∉ m.keys :=
  Entries.lookup_eq_none_iff_not_mem

theorem mem_keys_iff : key ∈ m.keys ↔ ∃ value, m.get? key = some value := by
  rw [← Option.isSome_iff_exists, Option.isSome_iff_ne_none, ne_eq, get?_eq_none_iff_not_mem,
    Classical.not_not]

theorem contains_iff_mem_keys : m.contains key = true ↔ key ∈ m.keys := by
  rw [mem_keys_iff, ← Option.isSome_iff_exists, contains]

theorem get?_filterKeys (m : OrderedMap α) (keep : String → Bool) (key : String) :
    (m.filterKeys keep).get? key = if keep key then m.get? key else none :=
  Entries.lookup_filter keep m.entries

theorem get?_erase_self (m : OrderedMap α) (key : String) : (m.erase key).get? key = none := by
  rw [erase, get?_filterKeys]
  simp

theorem get?_erase_of_ne (m : OrderedMap α) (h : other ≠ key) :
    (m.erase key).get? other = m.get? other := by
  rw [erase, get?_filterKeys]
  simp [h]

theorem keys_filterKeys (m : OrderedMap α) (keep : String → Bool) :
    (m.filterKeys keep).keys = m.keys.filter keep := by
  rw [keys, keys, List.filter_map]
  rfl

theorem filterKeys_comm (m : OrderedMap α) (keep other : String → Bool) :
    (m.filterKeys keep).filterKeys other = (m.filterKeys other).filterKeys keep := by
  apply ext_entries
  simp only [filterKeys, List.filter_filter, Bool.and_comm]

theorem not_mem_keys_erase (m : OrderedMap α) (key : String) : key ∉ (m.erase key).keys := by
  rw [← get?_eq_none_iff_not_mem, get?_erase_self]

/-- A key put before the `i`-th of the other keys, wherever it was. -/
def insertIdx (m : OrderedMap α) (i : Nat) (key : String) (value : α) : OrderedMap α where
  entries := (m.erase key).entries.take i ++ (key, value) :: (m.erase key).entries.drop i
  nodup := by
    have hnodup : (key :: (m.erase key).keys).Nodup :=
      List.nodup_cons.mpr ⟨m.not_mem_keys_erase key, (m.erase key).nodup⟩
    have hperm : ((m.erase key).entries.take i ++ (key, value) :: (m.erase key).entries.drop i).Perm
        ((key, value) :: (m.erase key).entries) := by
      refine List.perm_middle.trans ?_
      rw [List.take_append_drop]
    exact (hperm.map Prod.fst).nodup_iff.mpr hnodup

theorem get?_insertIdx_self (m : OrderedMap α) (i : Nat) (key : String) (value : α) :
    (m.insertIdx i key value).get? key = some value :=
  (Entries.lookup_eq_some_iff_mem (m.insertIdx i key value).nodup).mpr
    (List.mem_append_right _ List.mem_cons_self)

theorem erase_erase (m : OrderedMap α) (key : String) : (m.erase key).erase key = m.erase key := by
  apply ext_entries
  simp only [erase, filterKeys, List.filter_filter, Bool.and_self]

theorem erase_insert (m : OrderedMap α) (key : String) (value : α) :
    (m.insert key value).erase key = m.erase key :=
  ext_entries (Entries.filter_put key value m.entries)

theorem erase_insertIdx (m : OrderedMap α) (i : Nat) (key : String) (value : α) :
    (m.insertIdx i key value).erase key = m.erase key := by
  have hentries : (m.insertIdx i key value).entries.filter (fun entry => entry.1 != key) =
      (m.erase key).entries.filter fun entry => entry.1 != key := by
    rw [insertIdx, List.filter_append, List.filter_cons_of_neg (by simp), ← List.filter_append,
      List.take_append_drop]
  exact (ext_entries hentries).trans (m.erase_erase key)

end OrderedMap

end RecordSchema
