/-!
# Maps that keep insertion order

Entry lists with `put` and `List.lookup`, and the bundled `OrderedMap`, whose
keys are distinct. Putting a key that is present replaces its value and keeps
its position; a new key goes to the end.
-/

namespace RecordSchema

/-- Set a key: in place when present, at the end otherwise. -/
def Entries.put (key : String) (value : α) : List (String × α) → List (String × α)
  | [] => [(key, value)]
  | (k, v) :: rest => if k = key then (key, value) :: rest else (k, v) :: Entries.put key value rest

/-- Entries with each key at its first position and with its last value. -/
def Entries.collapse (entries : List (String × α)) : List (String × α) :=
  entries.foldl (fun acc entry => Entries.put entry.1 entry.2 acc) []

theorem Entries.keys_put (key : String) (value : α) (entries : List (String × α)) :
    (Entries.put key value entries).map Prod.fst =
      if key ∈ entries.map Prod.fst then entries.map Prod.fst
      else entries.map Prod.fst ++ [key] := by
  induction entries with
  | nil => simp [Entries.put]
  | cons entry rest ih =>
    obtain ⟨k, v⟩ := entry
    by_cases h : k = key
    · simp [Entries.put, h]
    · have h' : ¬ key = k := fun e => h e.symm
      by_cases hm : key ∈ rest.map Prod.fst
      · simp only [Entries.put, h, if_false, List.map_cons, ih, if_pos hm]
        rw [if_pos (List.mem_cons_of_mem _ hm)]
      · simp only [Entries.put, h, if_false, List.map_cons, ih, if_neg hm]
        rw [if_neg (by simpa [h'] using hm)]
        rfl

theorem Entries.nodup_put (key : String) (value : α) {entries : List (String × α)}
    (h : (entries.map Prod.fst).Nodup) :
    ((Entries.put key value entries).map Prod.fst).Nodup := by
  rw [Entries.keys_put]
  split
  · exact h
  · rename_i hk
    rw [List.nodup_append]
    refine ⟨h, by simp, ?_⟩
    intro a ha b hb
    simp only [List.mem_singleton] at hb
    subst hb
    exact fun e => hk (e ▸ ha)

theorem Entries.lookup_put_self (key : String) (value : α) (entries : List (String × α)) :
    (Entries.put key value entries).lookup key = some value := by
  induction entries with
  | nil => simp [Entries.put]
  | cons entry rest ih =>
    obtain ⟨k, v⟩ := entry
    by_cases h : k = key
    · simp [Entries.put, h]
    · have h' : ¬ key = k := fun e => h e.symm
      have hb : (key == k) = false := by simpa using h'
      simp [Entries.put, h, List.lookup_cons, hb, ih]

theorem Entries.lookup_put_of_ne {key other : String} (value : α) (entries : List (String × α))
    (hne : other ≠ key) :
    (Entries.put key value entries).lookup other = entries.lookup other := by
  induction entries with
  | nil =>
    have hb : (other == key) = false := by simpa using hne
    simp [Entries.put, List.lookup_cons, hb]
  | cons entry rest ih =>
    obtain ⟨k, v⟩ := entry
    by_cases h : k = key
    · subst h
      have hb : (other == k) = false := by simpa using hne
      simp [Entries.put, List.lookup_cons, hb]
    · simp only [Entries.put, h, if_false, List.lookup_cons]
      split <;> simp_all

theorem Entries.nodup_foldl_put (entries : List (String × α)) :
    ∀ {acc : List (String × α)}, (acc.map Prod.fst).Nodup →
      ((entries.foldl (fun acc entry => Entries.put entry.1 entry.2 acc) acc).map Prod.fst).Nodup := by
  induction entries with
  | nil => exact id
  | cons entry rest ih => exact fun h => ih (Entries.nodup_put entry.1 entry.2 h)

theorem Entries.nodup_collapse (entries : List (String × α)) :
    ((Entries.collapse entries).map Prod.fst).Nodup :=
  Entries.nodup_foldl_put entries (by simp)

/-- A finite map from names, listed in the order the names first came. -/
structure OrderedMap (α : Type) where
  entries : List (String × α)
  nodup : (entries.map Prod.fst).Nodup

namespace OrderedMap

def empty : OrderedMap α := ⟨[], by simp⟩

instance : EmptyCollection (OrderedMap α) := ⟨empty⟩
instance : Inhabited (OrderedMap α) := ⟨empty⟩

def ofEntries (entries : List (String × α)) : OrderedMap α :=
  ⟨Entries.collapse entries, Entries.nodup_collapse entries⟩

def keys (m : OrderedMap α) : List String := m.entries.map Prod.fst

def size (m : OrderedMap α) : Nat := m.entries.length

def get? (m : OrderedMap α) (key : String) : Option α := m.entries.lookup key

def contains (m : OrderedMap α) (key : String) : Bool := (m.get? key).isSome

def insert (m : OrderedMap α) (key : String) (value : α) : OrderedMap α :=
  ⟨Entries.put key value m.entries, Entries.nodup_put key value m.nodup⟩

/-- The entries whose key passes, in the same order. -/
def filterKeys (m : OrderedMap α) (keep : String → Bool) : OrderedMap α :=
  ⟨m.entries.filter (fun entry => keep entry.1),
    m.nodup.sublist (List.filter_sublist.map Prod.fst)⟩

def erase (m : OrderedMap α) (key : String) : OrderedMap α :=
  m.filterKeys (fun k => k != key)

@[simp] theorem entries_empty : (∅ : OrderedMap α).entries = [] := rfl

@[simp] theorem get?_empty (key : String) : (∅ : OrderedMap α).get? key = none := rfl

@[simp] theorem get?_insert_self (m : OrderedMap α) (key : String) (value : α) :
    (m.insert key value).get? key = some value :=
  Entries.lookup_put_self key value m.entries

theorem get?_insert_of_ne (m : OrderedMap α) {key other : String} (value : α)
    (h : other ≠ key) : (m.insert key value).get? other = m.get? other :=
  Entries.lookup_put_of_ne value m.entries h

theorem keys_insert (m : OrderedMap α) (key : String) (value : α) :
    (m.insert key value).keys = if key ∈ m.keys then m.keys else m.keys ++ [key] :=
  Entries.keys_put key value m.entries

theorem ext_entries {m n : OrderedMap α} (h : m.entries = n.entries) : m = n := by
  cases m; cases n; cases h; rfl

end OrderedMap

end RecordSchema
