import RecordSchema.Proofs.Number.Membership
import RecordSchema.Proofs.OrderedMap
import RecordSchema.Proofs.Value.Parts

/-!
# Comparing values

Equality compares numbers and coordinates by value, arrays item by item and objects in any
order (`Matches`). Two equal values are taken apart together (`beq_induction`). Among values whose
objects repeat no key equality is symmetric and transitive, and a value equals itself exactly when
every coordinate in it is a number (`beq_self_iff`).
-/

namespace RecordSchema

theorem Number.beq_self (n : Number) : (n == n) = true := by
  cases n with
  | integer k hk => exact beq_self_eq_true k
  | float x => exact Binary64.Finite.beq_iff.mpr rfl

/-- Only floats can be equal and yet differ: in the sign of zero. -/
theorem Number.eq_or_floats_of_beq {m n : Number} (h : (m == n) = true) :
    m = n ∨ ∃ x y, m = .float x ∧ n = .float y ∧ x.units = y.units := by
  cases m with
  | integer j hj =>
    cases n with
    | integer k hk =>
      obtain rfl : j = k := eq_of_beq h
      exact .inl rfl
    | float y => cases h
  | float x =>
    cases n with
    | integer k hk => cases h
    | float y => exact .inr ⟨x, y, rfl, rfl, Binary64.Finite.beq_iff.mp h⟩

/-- Equal doubles are of one value, or one infinity. -/
inductive Binary64.Same : Binary64 → Binary64 → Prop
  | finite (h : x.units = y.units) : Same (.finite x) (.finite y)
  | infinite : Same (.infinite negative) (.infinite negative)

theorem Binary64.beq_iff_same {x y : Binary64} : (x == y) = true ↔ Same x y := by
  constructor
  · intro h
    cases x with
    | finite x =>
      cases y with
      | finite y => exact .finite (Finite.beq_iff.mp h)
      | infinite | nan => cases h
    | infinite m =>
      cases y with
      | infinite n =>
        obtain rfl : m = n := eq_of_beq h
        exact .infinite
      | finite | nan => cases h
    | nan => cases y <;> cases h
  · rintro (⟨h⟩ | @negative)
    · exact Finite.beq_iff.mpr h
    · exact beq_self_eq_true negative

theorem Binary64.same_self_iff {x : Binary64} : Same x x ↔ x ≠ .nan := by
  constructor
  · rintro h rfl
    cases h
  · intro h
    cases x with
    | finite y => exact .finite rfl
    | infinite negative => exact .infinite
    | nan => exact (h rfl).elim

theorem Binary64.Same.symm (h : Same x y) : Same y x := by
  cases h with
  | finite h => exact .finite h.symm
  | infinite => exact .infinite

theorem Binary64.Same.trans (h : Same x y) (h' : Same y z) : Same x z := by
  cases h with
  | finite h =>
    cases h' with
    | finite h' => exact .finite (h.trans h')
  | infinite => exact h'

theorem exists_of_forall₂ {R : α → β → Prop} {xs : List α} {ys : List β}
    (h : List.Forall₂ R xs ys) (hx : x ∈ xs) : ∃ y ∈ ys, R x y := by
  induction h with
  | nil => cases hx
  | cons hxy _ ih =>
    rcases List.mem_cons.mp hx with rfl | hx
    · exact ⟨_, List.mem_cons_self, hxy⟩
    · obtain ⟨y, hy, hrel⟩ := ih hx
      exact ⟨y, List.mem_cons_of_mem _ hy, hrel⟩

theorem forall₂_imp_of_mem {R S : α → β → Prop} {xs : List α} {ys : List β}
    (h : List.Forall₂ R xs ys) (hRS : ∀ x ∈ xs, ∀ y, R x y → S x y) : List.Forall₂ S xs ys :=
  ((List.forall₂_and_left xs ys).mpr ⟨hRS, h⟩).imp fun _ y hxy => hxy.1 y hxy.2

theorem forall₂_trans {R : α → β → Prop} {S : β → γ → Prop} {T : α → γ → Prop} {xs : List α}
    {ys : List β} {zs : List γ} (h : List.Forall₂ R xs ys) (h' : List.Forall₂ S ys zs)
    (hRST : ∀ x y z, R x y → S y z → T x z) : List.Forall₂ T xs zs := by
  induction h generalizing zs with
  | nil =>
    cases h'
    exact .nil
  | cons hxy _ ih =>
    cases h' with
    | cons hyz hrest => exact .cons (hRST _ _ _ hxy hyz) (ih hrest)

namespace Value

-- ---------------------------------------------------------------------------
-- One step of the comparison
-- ---------------------------------------------------------------------------

/-- Values of one variant whose parts are equal. -/
inductive Matches : Value → Value → Prop
  | leaf (h : v.IsLeaf) (hnan : ¬ v.HasNaN) : Matches v v
  | float (h : x.units = y.units) : Matches (.number (.float x)) (.number (.float y))
  | geoPoint (hlat : Binary64.Same p.latitude q.latitude)
      (hlng : Binary64.Same p.longitude q.longitude) : Matches (.geoPoint p) (.geoPoint q)
  | array (h : List.Forall₂ (fun x y : Value => (x == y) = true) xs ys) :
      Matches (.array xs) (.array ys)
  | object (h : Entries.Matched (fun x y : Value => (x == y) = true) xs ys) :
      Matches (.object xs) (.object ys)

theorem beqItems_iff {xs ys : List Value} :
    beqItems xs ys = true ↔ List.Forall₂ (fun x y => (x == y) = true) xs ys := by
  induction xs generalizing ys with
  | nil => cases ys <;> simp [beqItems]
  | cons x xs ih =>
    cases ys with
    | nil => simp [beqItems]
    | cons y ys =>
      rw [beqItems, Bool.and_eq_true, ih, List.forall₂_cons]
      rfl

theorem beqFields_iff {xs ys : List (String × Value)} :
    beqFields xs ys = true ↔
      ∀ entry ∈ xs, ∃ y, ys.lookup entry.1 = some y ∧ (entry.2 == y) = true := by
  induction xs with
  | nil => simp [beqFields]
  | cons entry xs ih =>
    obtain ⟨key, x⟩ := entry
    rw [beqFields, Bool.and_eq_true, ih, List.forall_mem_cons]
    cases ys.lookup key with
    | none => simp
    | some y =>
      simp only [Option.some.injEq, exists_eq_left']
      rfl

theorem beq_array_iff {xs ys : List Value} :
    (Value.array xs == .array ys) = true ↔
      List.Forall₂ (fun x y : Value => (x == y) = true) xs ys :=
  beqItems_iff

theorem beq_object_iff {xs ys : List (String × Value)} :
    (Value.object xs == .object ys) = true ↔
      Entries.Matched (fun x y : Value => (x == y) = true) xs ys := by
  have hbeq : (Value.object xs == .object ys) = (xs.length == ys.length && beqFields xs ys) := rfl
  rw [hbeq, Bool.and_eq_true, beqFields_iff, beq_iff_eq, Entries.matched_iff]

theorem beq_geoPoint_iff {p q : GeoPoint} : (Value.geoPoint p == .geoPoint q) = true ↔
    Binary64.Same p.latitude q.latitude ∧ Binary64.Same p.longitude q.longitude := by
  rw [← Binary64.beq_iff_same, ← Binary64.beq_iff_same, ← Bool.and_eq_true]
  rfl

theorem beq_self_of_isLeaf {v : Value} (h : v.IsLeaf) (hnan : ¬ v.HasNaN) : (v == v) = true := by
  cases v with
  | array | object => exact h.elim
  | null => rfl
  | bool b => exact beq_self_eq_true b
  | number n => exact n.beq_self
  | string s => exact beq_self_eq_true s
  | int x => exact beq_self_eq_true x.raw
  | double x => exact beq_self_eq_true x.raw
  | geoPoint p =>
    rw [HasNaN, not_or] at hnan
    exact beq_geoPoint_iff.mpr
      ⟨Binary64.same_self_iff.mpr hnan.1, Binary64.same_self_iff.mpr hnan.2⟩
  | buffer bytes => exact beq_self_eq_true bytes
  | dateTime t =>
    exact Bool.and_eq_true_iff.mpr ⟨beq_self_eq_true t.seconds, beq_self_eq_true t.nanos⟩

theorem beq_of_matches (h : Matches a b) : (a == b) = true := by
  cases h with
  | leaf h hnan => exact beq_self_of_isLeaf h hnan
  | float h => exact Binary64.Finite.beq_iff.mpr h
  | geoPoint hlat hlng => exact beq_geoPoint_iff.mpr ⟨hlat, hlng⟩
  | array h => exact beq_array_iff.mpr h
  | object h => exact beq_object_iff.mpr h

theorem matches_of_beq (h : (a == b) = true) : Matches a b := by
  have hbeq : Value.beq a b = true := h
  unfold Value.beq at hbeq
  -- The pairs of one kind as they are listed there, then all the others.
  split at hbeq
  · exact .leaf trivial id
  · obtain rfl := eq_of_beq hbeq
    exact .leaf trivial id
  · obtain rfl | ⟨x, y, rfl, rfl, hxy⟩ := Number.eq_or_floats_of_beq hbeq
    · exact .leaf trivial id
    · exact .float hxy
  · obtain rfl := eq_of_beq hbeq
    exact .leaf trivial id
  · exact .array (beq_array_iff.mp h)
  · exact .object (beq_object_iff.mp h)
  · rename_i x y
    obtain ⟨raw⟩ := x
    obtain rfl := eq_of_beq hbeq
    exact .leaf trivial id
  · rename_i x y
    obtain ⟨raw⟩ := x
    obtain rfl := eq_of_beq hbeq
    exact .leaf trivial id
  · obtain ⟨hlat, hlng⟩ := beq_geoPoint_iff.mp h
    exact .geoPoint hlat hlng
  · obtain rfl := eq_of_beq hbeq
    exact .leaf trivial id
  · rename_i t u
    obtain ⟨seconds, nanos, valid⟩ := t
    obtain ⟨hseconds, hnanos⟩ := Bool.and_eq_true_iff.mp hbeq
    obtain rfl := eq_of_beq hseconds
    obtain rfl := eq_of_beq hnanos
    exact .leaf trivial id
  · cases hbeq

/-- Induction through two equal values at once. -/
theorem beq_induction {motive : Value → Value → Prop}
    (leaf : ∀ v, v.IsLeaf → ¬ v.HasNaN → motive v v)
    (float : ∀ x y, x.units = y.units → motive (.number (.float x)) (.number (.float y)))
    (geoPoint : ∀ p q, Binary64.Same p.latitude q.latitude →
      Binary64.Same p.longitude q.longitude → motive (.geoPoint p) (.geoPoint q))
    (array : ∀ xs ys, List.Forall₂ motive xs ys → motive (.array xs) (.array ys))
    (object : ∀ xs ys, Entries.Matched motive xs ys → motive (.object xs) (.object ys))
    {a b : Value} (h : (a == b) = true) : motive a b := by
  induction a using nested_induction generalizing b with
  | leaf a hleaf =>
    cases matches_of_beq h with
    | leaf _ hnan => exact leaf a hleaf hnan
    | float hxy => exact float _ _ hxy
    | geoPoint hlat hlng => exact geoPoint _ _ hlat hlng
    | array | object => exact hleaf.elim
  | array items ih =>
    cases matches_of_beq h with
    | leaf hleaf => exact hleaf.elim
    | array hitems =>
      exact array _ _ (forall₂_imp_of_mem hitems fun item hitem _ hequal => ih item hitem hequal)
  | object fields ih =>
    cases matches_of_beq h with
    | leaf hleaf => exact hleaf.elim
    | object hmatched =>
      exact object _ _ (hmatched.imp_of_mem fun field hfield _ hequal => ih field hfield hequal)

-- ---------------------------------------------------------------------------
-- Laws of equality
-- ---------------------------------------------------------------------------

theorem beq_refl {v : Value} (h : v.WellFormed) (hnan : v.NaNFree) : (v == v) = true := by
  induction v using nested_induction with
  | leaf v hleaf => exact beq_self_of_isLeaf hleaf (hnan v (.self v))
  | array items ih =>
    exact beq_array_iff.mpr (List.forall₂_same.mpr fun item hitem =>
      ih item hitem (wellFormed_array_iff.mp h item hitem) (nanFree_array_iff.mp hnan item hitem))
  | object fields ih =>
    obtain ⟨hkeys, hfields⟩ := wellFormed_object_iff.mp h
    exact beq_object_iff.mpr (.of_perm (.refl fields) hkeys fun field hfield =>
      ih field hfield (hfields field hfield) (nanFree_object_iff.mp hnan field hfield))

/-- What occurs in a value has an equal counterpart in every equal value. -/
theorem OccursIn.counterpart (hpart : OccursIn part a) (h : (a == b) = true) :
    ∃ other, OccursIn other b ∧ (part == other) = true := by
  induction hpart generalizing b with
  | self v => exact ⟨b, .self b, h⟩
  | item hmem hpart ih =>
    cases matches_of_beq h with
    | leaf hleaf => exact hleaf.elim
    | array hitems =>
      obtain ⟨y, hy, hxy⟩ := exists_of_forall₂ hitems hmem
      obtain ⟨other, hother, hequal⟩ := ih hxy
      exact ⟨other, .item hy hother, hequal⟩
  | field hmem hpart ih =>
    cases matches_of_beq h with
    | leaf hleaf => exact hleaf.elim
    | object hmatched =>
      obtain ⟨y, hy, hxy⟩ := hmatched.partner _ hmem
      obtain ⟨other, hother, hequal⟩ := ih hxy
      exact ⟨other, .field (Entries.mem_of_lookup hy) hother, hequal⟩

theorem not_hasNaN_of_beq {a b : Value} (h : (a == b) = true) : ¬ a.HasNaN := by
  cases matches_of_beq h with
  | leaf _ hnan => exact hnan
  | geoPoint hlat hlng =>
    rintro (hnan | hnan)
    · exact Binary64.same_self_iff.mp (hlat.trans hlat.symm) hnan
    · exact Binary64.same_self_iff.mp (hlng.trans hlng.symm) hnan
  | float | array | object => exact id

/-- A coordinate that is not a number keeps a value from being equal to any, itself included. -/
theorem beq_self_iff {v : Value} (h : v.WellFormed) : (v == v) = true ↔ v.NaNFree := by
  refine ⟨fun hself part hpart => ?_, beq_refl h⟩
  obtain ⟨other, -, hequal⟩ := hpart.counterpart hself
  exact not_hasNaN_of_beq hequal

theorem beq_symm {a b : Value} (ha : a.WellFormed) (h : (a == b) = true) : (b == a) = true := by
  revert ha
  refine beq_induction (motive := fun a b => a.WellFormed → (b == a) = true)
    ?leaf ?float ?geoPoint ?array ?object h
  case leaf => exact fun v hleaf hnan _ => beq_self_of_isLeaf hleaf hnan
  case float => exact fun x y hxy _ => beq_of_matches (.float hxy.symm)
  case geoPoint => exact fun p q hlat hlng _ => beq_of_matches (.geoPoint hlat.symm hlng.symm)
  case array =>
    intro xs ys hitems hwell
    refine beq_array_iff.mpr (List.Forall₂.flip (forall₂_imp_of_mem hitems ?_))
    exact fun item hitem y hy => hy (wellFormed_array_iff.mp hwell item hitem)
  case object =>
    intro xs ys hmatched hwell
    -- Distinct keys and equal lengths: no field of the second object is without a partner.
    obtain ⟨hkeys, hfields⟩ := wellFormed_object_iff.mp hwell
    exact beq_object_iff.mpr (hmatched.symm hkeys fun field hfield y hy => hy (hfields field hfield))

theorem beq_trans {a b c : Value} (hab : (a == b) = true) (hbc : (b == c) = true) :
    (a == c) = true := by
  revert c
  refine beq_induction (motive := fun a b => ∀ {c}, (b == c) = true → (a == c) = true)
    ?leaf ?float ?geoPoint ?array ?object hab
  case leaf => exact fun v _ _ c h => h
  case float =>
    intro x y hxy c h
    cases matches_of_beq h with
    | leaf => exact beq_of_matches (.float hxy)
    | float hyz => exact beq_of_matches (.float (hxy.trans hyz))
  case geoPoint =>
    intro p q hlat hlng c h
    cases matches_of_beq h with
    | leaf => exact beq_of_matches (.geoPoint hlat hlng)
    | geoPoint hlat' hlng' =>
      exact beq_of_matches (.geoPoint (hlat.trans hlat') (hlng.trans hlng'))
  case array =>
    intro xs ys hitems c h
    cases matches_of_beq h with
    | leaf hleaf => exact hleaf.elim
    | array hitems' =>
      exact beq_array_iff.mpr (forall₂_trans hitems hitems' fun _ _ _ htrans => htrans)
  case object =>
    intro xs ys hmatched c h
    cases matches_of_beq h with
    | leaf hleaf => exact hleaf.elim
    | object hmatched' =>
      exact beq_object_iff.mpr (hmatched.trans hmatched' fun _ _ _ htrans => htrans)

theorem beq_comm {a b : Value} (ha : a.WellFormed) (hb : b.WellFormed) : (a == b) = (b == a) :=
  Bool.eq_iff_iff.mpr ⟨beq_symm ha, beq_symm hb⟩

/-- Equal values are equal to the same values. -/
theorem beq_congr_right {a b : Value} (ha : a.WellFormed) (h : (a == b) = true) (c : Value) :
    (c == a) = (c == b) :=
  Bool.eq_iff_iff.mpr ⟨fun hca => beq_trans hca h, fun hcb => beq_trans hcb (beq_symm ha h)⟩

end Value

end RecordSchema
