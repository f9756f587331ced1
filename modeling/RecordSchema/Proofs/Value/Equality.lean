import RecordSchema.Proofs.Value.Comparison

/-!
# Equal values

What equality respects. `equality_laws`: no reordering of fields disturbs it, equal values are
of the same variant at every place, and no conversion and no judgment of values tells them apart.
-/

namespace RecordSchema

namespace Value

-- ---------------------------------------------------------------------------
-- Fields in another order
-- ---------------------------------------------------------------------------

/-- The same value with the fields of some objects, at any depth, in another order. -/
inductive Reordered : Value → Value → Prop
  | refl (v : Value) : Reordered v v
  | fields (h : xs.Perm ys) : Reordered (.object xs) (.object ys)
  | item (before after : List Value) (h : Reordered x y) :
      Reordered (.array (before ++ x :: after)) (.array (before ++ y :: after))
  | field (before after : List (String × Value)) (key : String) (h : Reordered x y) :
      Reordered (.object (before ++ (key, x) :: after)) (.object (before ++ (key, y) :: after))
  | trans (h : Reordered x y) (h' : Reordered y z) : Reordered x z

theorem Reordered.wellFormed (h : Reordered a b) (ha : a.WellFormed) : b.WellFormed := by
  induction h with
  | refl => exact ha
  | fields h =>
    obtain ⟨hkeys, hfields⟩ := wellFormed_object_iff.mp ha
    exact wellFormed_object_iff.mpr
      ⟨(h.map Prod.fst).nodup_iff.mp hkeys, fun field hfield => hfields field (h.mem_iff.mpr hfield)⟩
  | item before after h ih =>
    rw [wellFormed_array_iff, List.forall_mem_append, List.forall_mem_cons] at ha ⊢
    exact ⟨ha.1, ih ha.2.1, ha.2.2⟩
  | field before after key h ih =>
    rw [wellFormed_object_iff, List.forall_mem_append, List.forall_mem_cons] at ha ⊢
    rw [List.map_append, List.map_cons] at ha ⊢
    exact ⟨ha.1, ha.2.1, ih ha.2.2.1, ha.2.2.2⟩
  | trans _ _ ih ih' => exact ih' (ih ha)

theorem forall₂_replace_iff {R : α → β → Prop} {ys : List β} (before : List α)
    (h : ∀ y, R x y ↔ R x' y) :
    List.Forall₂ R (before ++ x :: after) ys ↔ List.Forall₂ R (before ++ x' :: after) ys := by
  induction before generalizing ys with
  | nil => simp only [List.nil_append, List.forall₂_cons_left_iff, h]
  | cons first rest ih => simp only [List.cons_append, List.forall₂_cons_left_iff, ih]

theorem matched_replace_iff {R : α → β → Prop} {ys : List (String × β)}
    (before : List (String × α)) (h : ∀ y, R x y ↔ R x' y) :
    Entries.Matched R (before ++ (key, x) :: after) ys ↔
      Entries.Matched R (before ++ (key, x') :: after) ys := by
  simp only [Entries.matched_iff, List.length_append, List.length_cons, List.forall_mem_append,
    List.forall_mem_cons, h]

/-- A reordered value is equal to the same values as before. -/
theorem Reordered.beq_left (h : Reordered a b) (c : Value) : (a == c) = (b == c) := by
  induction h generalizing c with
  | refl => rfl
  | fields h =>
    cases c with
    | object zs =>
      rw [Bool.eq_iff_iff, beq_object_iff, beq_object_iff, Entries.matched_iff,
        Entries.matched_iff, h.length_eq]
      simp only [h.mem_iff]
    | _ => rfl
  | item before after h ih =>
    cases c with
    | array zs =>
      rw [Bool.eq_iff_iff, beq_array_iff, beq_array_iff]
      exact forall₂_replace_iff before fun z => Bool.eq_iff_iff.mp (ih z)
    | _ => rfl
  | field before after key h ih =>
    cases c with
    | object zs =>
      rw [Bool.eq_iff_iff, beq_object_iff, beq_object_iff]
      exact matched_replace_iff before fun z => Bool.eq_iff_iff.mp (ih z)
    | _ => rfl
  | trans _ _ ih ih' => exact (ih c).trans (ih' c)

-- ---------------------------------------------------------------------------
-- Parts at any depth
-- ---------------------------------------------------------------------------

/-- One step down: to an item of an array or to a field of an object. -/
inductive Step where
  | item (i : Nat)
  | field (key : String)

def child? : Value → Step → Option Value
  | .array items, .item i => items[i]?
  | .object fields, .field key => fields.lookup key
  | _, _ => none

/-- The part at the end of a path. -/
def at? (v : Value) (path : List Step) : Option Value := path.foldlM child? v

/-- What a value is: integers and floats are numbers of two variants. -/
inductive Variant where
  | null
  | bool
  | integer
  | float
  | string
  | array
  | object
  | taggedInt
  | taggedDouble
  | geoPoint
  | buffer
  | dateTime
  deriving DecidableEq

def variant : Value → Variant
  | .null => .null
  | .bool _ => .bool
  | .number (.integer _ _) => .integer
  | .number (.float _) => .float
  | .string _ => .string
  | .array _ => .array
  | .object _ => .object
  | .int _ => .taggedInt
  | .double _ => .taggedDouble
  | .geoPoint _ => .geoPoint
  | .buffer _ => .buffer
  | .dateTime _ => .dateTime

theorem variant_eq_of_beq {a b : Value} (h : (a == b) = true) : a.variant = b.variant := by
  cases matches_of_beq h <;> rfl

theorem wellFormed_of_child? {v child : Value} (hv : v.WellFormed)
    (h : v.child? step = some child) : child.WellFormed := by
  unfold child? at h
  split at h
  · exact wellFormed_array_iff.mp hv child (List.mem_of_getElem? h)
  · exact (wellFormed_object_iff.mp hv).2 _ (Entries.mem_of_lookup h)
  · cases h

theorem child?_eq_none_of_isLeaf {v : Value} (h : v.IsLeaf) (step : Step) : v.child? step = none := by
  cases v <;> first | rfl | exact h.elim

theorem getElem?_of_forall₂ {R : α → β → Prop} {xs : List α} {ys : List β}
    (h : List.Forall₂ R xs ys) (i : Nat) : Option.Rel R xs[i]? ys[i]? := by
  induction h generalizing i with
  | nil => exact .none
  | cons hxy _ ih =>
    cases i with
    | zero => exact .some hxy
    | succ i => exact ih i

theorem child?_of_beq {a b : Value} (ha : a.WellFormed) (h : (a == b) = true) (step : Step) :
    Option.Rel (fun x y : Value => (x == y) = true) (a.child? step) (b.child? step) := by
  cases matches_of_beq h with
  | leaf hleaf =>
    rw [child?_eq_none_of_isLeaf hleaf]
    exact .none
  | float | geoPoint => exact .none
  | array hitems =>
    cases step with
    | item i => exact getElem?_of_forall₂ hitems i
    | field key => exact .none
  | object hmatched =>
    cases step with
    | item i => exact .none
    | field key => exact hmatched.lookup (wellFormed_object_iff.mp ha).1 key

theorem at?_of_beq {a b : Value} (ha : a.WellFormed) (h : (a == b) = true) (path : List Step) :
    Option.Rel (fun x y : Value => (x == y) = true) (a.at? path) (b.at? path) := by
  induction path generalizing a b with
  | nil => exact .some h
  | cons step rest ih =>
    have hchild := child?_of_beq ha h step
    have hwell : ∀ child, a.child? step = some child → child.WellFormed :=
      fun _ => wellFormed_of_child? ha
    rw [at?, at?, List.foldlM_cons, List.foldlM_cons]
    generalize a.child? step = x, b.child? step = y at hchild hwell ⊢
    cases hchild with
    | none => exact .none
    | some hxy => exact ih (hwell _ rfl) hxy

theorem variants_of_beq {a b : Value} (ha : a.WellFormed) (h : (a == b) = true)
    (path : List Step) : (a.at? path).map variant = (b.at? path).map variant := by
  have hparts := at?_of_beq ha h path
  generalize a.at? path = x, b.at? path = y at hparts ⊢
  cases hparts with
  | none => rfl
  | some hxy => exact congrArg some (variant_eq_of_beq hxy)

-- ---------------------------------------------------------------------------
-- Plain values
-- ---------------------------------------------------------------------------

mutual
/-- Trees compare like the values that they become. -/
theorem beq_ofJson : (j k : Json) → Value.beq (ofJson j) (ofJson k) = Json.beq j k
  | .array xs, .array ys => beqItems_ofItems xs ys
  | .object xs, .object ys => by
    have hlength : ∀ fields : List (String × Json), (ofFields fields).length = fields.length :=
      fun fields => by rw [ofFields_eq_map, List.length_map]
    calc Value.beq (ofJson (.object xs)) (ofJson (.object ys))
      _ = ((ofFields xs).length == (ofFields ys).length && beqFields (ofFields xs) (ofFields ys)) :=
        rfl
      _ = (xs.length == ys.length && Json.beqFields xs ys) := by
        rw [hlength, hlength, beqFields_ofFields xs ys]
      _ = Json.beq (.object xs) (.object ys) := rfl
  | .array _, .null | .array _, .bool _ | .array _, .number _ | .array _, .string _
  | .array _, .object _ | .object _, .null | .object _, .bool _ | .object _, .number _
  | .object _, .string _ | .object _, .array _ => rfl
  | .null, k | .bool _, k | .number _, k | .string _, k => by cases k <;> rfl
theorem beqItems_ofItems : (xs ys : List Json) →
    beqItems (ofItems xs) (ofItems ys) = Json.beqItems xs ys
  | [], [] => rfl
  | [], _ :: _ => rfl
  | _ :: _, [] => rfl
  | x :: xs, y :: ys => by
    rw [ofItems, ofItems, beqItems, Json.beqItems, beq_ofJson x y, beqItems_ofItems xs ys]
theorem beqFields_ofFields : (xs ys : List (String × Json)) →
    beqFields (ofFields xs) (ofFields ys) = Json.beqFields xs ys
  | [], _ => rfl
  | (key, x) :: xs, ys => by
    rw [ofFields, beqFields, Json.beqFields, beqFields_ofFields xs ys, ofFields_eq_map ys,
      Entries.lookup_map]
    cases ys.lookup key with
    | none => rfl
    | some y => exact congrArg (· && Json.beqFields xs ys) (beq_ofJson x y)
end

theorem geoPoint_keys_nodup : ["latitude", "longitude"].Nodup := by decide

theorem wellFormed_lowered_of_isLeaf {v : Value} (h : v.IsLeaf) :
    (ofJson v.toJson).WellFormed := by
  cases v with
  | array | object => exact h.elim
  | int x =>
    unfold toJson TaggedInt.lower
    split <;> trivial
  | double x =>
    unfold toJson TaggedDouble.lower
    split <;> trivial
  | geoPoint p =>
    have hcoordinate : ∀ x : Binary64, (ofJson (x.lower Json.plainForms)).WellFormed := by
      intro x
      cases x <;> trivial
    exact ⟨geoPoint_keys_nodup, hcoordinate _, hcoordinate _, trivial⟩
  | buffer bytes =>
    rw [toJson, ofJson, ofItems_eq_map, wellFormed_array_iff, List.map_map]
    exact List.forall_mem_map.mpr fun _ _ => trivial
  | _ => trivial

theorem coordinate_congr (h : Binary64.Same x y) :
    (ofJson (x.lower Json.plainForms) == ofJson (y.lower Json.plainForms)) = true := by
  cases h with
  | finite h => exact beq_of_matches (.float h)
  | infinite => rfl

theorem lowered_congr {a b : Value} (h : (a == b) = true) :
    (ofJson a.toJson == ofJson b.toJson) = true := by
  refine beq_induction (motive := fun a b => (ofJson a.toJson == ofJson b.toJson) = true)
    ?leaf ?float ?geoPoint ?array ?object h
  case leaf =>
    exact fun v hleaf _ =>
      beq_refl (wellFormed_lowered_of_isLeaf hleaf) (plain_ofJson v.toJson).nanFree
  case float => exact fun x y hxy => beq_of_matches (.float hxy)
  case geoPoint =>
    intro p q hlat hlng
    refine beq_object_iff.mpr (Entries.Related.matched ?_ geoPoint_keys_nodup)
    exact .cons ⟨rfl, coordinate_congr hlat⟩ (.cons ⟨rfl, coordinate_congr hlng⟩ .nil)
  case array =>
    intro xs ys hitems
    rw [ofJson_toJson_array, ofJson_toJson_array, beq_array_iff, List.forall₂_map_left_iff,
      List.forall₂_map_right_iff]
    exact hitems
  case object =>
    intro xs ys hmatched
    rw [ofJson_toJson_object, ofJson_toJson_object, beq_object_iff]
    exact Entries.Matched.map (f := fun v : Value => ofJson v.toJson)
      (g := fun v : Value => ofJson v.toJson) hmatched

theorem toJson_congr {a b : Value} (h : (a == b) = true) : (a.toJson == b.toJson) = true :=
  (beq_ofJson a.toJson b.toJson).symm.trans (lowered_congr h)

-- ---------------------------------------------------------------------------
-- Judgments
-- ---------------------------------------------------------------------------

theorem isBlank_congr {a b : Value} (h : (a == b) = true) : a.isBlank = b.isBlank := by
  cases matches_of_beq h <;> rfl

theorem isCoordinate_congr {a b : Option Value}
    (h : Option.Rel (fun x y : Value => (x == y) = true) a b) :
    isCoordinate a = isCoordinate b := by
  cases h with
  | none => rfl
  | some hxy => cases matches_of_beq hxy <;> rfl

theorem isWhole_congr {x y : Binary64.Finite} (h : x.units = y.units) :
    x.isWhole = y.isWhole := by
  rw [Binary64.Finite.isWhole, Binary64.Finite.isWhole, ← x.natAbs_units, ← y.natAbs_units, h]

theorem admits_congr {a b : Value} (ha : a.WellFormed) (h : (a == b) = true) (t : PropertyType) :
    t.admits a = t.admits b := by
  cases matches_of_beq h with
  | leaf => rfl
  | float hxy =>
    cases t with
    | int => exact isWhole_congr hxy
    | _ => rfl
  | geoPoint | array => cases t <;> rfl
  | object hmatched =>
    cases t with
    | geoPoint =>
      have hlookup := hmatched.lookup (wellFormed_object_iff.mp ha).1
      exact congrArg₂ and (isCoordinate_congr (hlookup "latitude"))
        (isCoordinate_congr (hlookup "longitude"))
    | _ => rfl

theorem denotesSame_congr {x y : Binary64.Finite} (h : x.units = y.units) (n : Number) :
    n.denotesSame (.float x) = n.denotesSame (.float y) := by
  rw [Bool.eq_iff_iff]
  cases n with
  | integer k hk =>
    rw [Number.denotesSame_integer_float, Number.denotesSame_integer_float]
    exact ⟨fun hx => hx.congr h.symm, fun hy => hy.congr h⟩
  | float z =>
    rw [Number.denotesSame_floats, Number.denotesSame_floats, Binary64.Finite.value_inj.mpr h]

theorem sameMember_congr {a b : Value} (ha : a.WellFormed) (h : (a == b) = true)
    (candidate : Value) : sameMember candidate a = sameMember candidate b := by
  cases matches_of_beq h with
  | leaf => rfl
  | float hxy =>
    cases candidate with
    | number n => exact denotesSame_congr hxy n
    | _ => rfl
  | geoPoint | array | object =>
    -- Only among numbers is membership more than equality.
    have hequal := beq_congr_right ha h candidate
    cases candidate <;> exact hequal

theorem isAllowed_congr {a b : Value} (ha : a.WellFormed) (h : (a == b) = true)
    (allowed : List Value) : isAllowed allowed a = isAllowed allowed b :=
  congrArg allowed.any (funext (sameMember_congr ha h))

/-- No conversion to a document tree and no judgment of a value tells them apart. -/
structure Indistinguishable (a b : Value) : Prop where
  toJson_beq : (a.toJson == b.toJson) = true
  admits_eq (t : PropertyType) : t.admits a = t.admits b
  isBlank_eq : a.isBlank = b.isBlank
  isAllowed_eq (allowed : List Value) : isAllowed allowed a = isAllowed allowed b

theorem indistinguishable_of_beq {a b : Value} (ha : a.WellFormed) (h : (a == b) = true) :
    Indistinguishable a b where
  toJson_beq := toJson_congr h
  admits_eq := admits_congr ha h
  isBlank_eq := isBlank_congr h
  isAllowed_eq := isAllowed_congr ha h

-- ---------------------------------------------------------------------------
-- The laws together
-- ---------------------------------------------------------------------------

/-- Equality is symmetric and transitive, and reflexive where every coordinate is a number. It does
not see the order of fields, keeps every part to its variant, and is respected by the lowering and
by every judgment of values. -/
theorem equality_laws (a b c : Value) (ha : a.WellFormed) (hb : b.WellFormed) :
    ((a == a) = true ↔ a.NaNFree) ∧
    (a == b) = (b == a) ∧
    ((a == b) = true → (b == c) = true → (a == c) = true) ∧
    (∀ a' b', Reordered a a' → Reordered b b' → (a' == b') = (a == b)) ∧
    ((a == b) = true → ∀ path, (a.at? path).map variant = (b.at? path).map variant) ∧
    ((a == b) = true → Indistinguishable a b) := by
  refine ⟨beq_self_iff ha, beq_comm ha hb, beq_trans, fun a' b' hreorder hreorder' => ?_,
    variants_of_beq ha, indistinguishable_of_beq ha⟩
  calc (a' == b') = (a == b') := (hreorder.beq_left b').symm
    _ = (b' == a) := beq_comm ha (hreorder'.wellFormed hb)
    _ = (b == a) := (hreorder'.beq_left a).symm
    _ = (a == b) := beq_comm hb ha

/-- A point at the negative zero, and a wrapped integer in an object in an array. -/
def venue : Value :=
  .object [("at", .geoPoint ⟨.finite (.zero true), .finite (.zero false)⟩),
    ("halls", .array [.object [("seats", .int ⟨"7"⟩), ("name", .null)]])]

/-- The fields of `venue` in another order at both depths, and the other zero. -/
def venueReordered : Value :=
  .object [("halls", .array [.object [("name", .null), ("seats", .int ⟨"7"⟩)]]),
    ("at", .geoPoint ⟨.finite (.zero false), .finite (.zero false)⟩)]

theorem equality_laws_venue :
    venue.WellFormed ∧ venueReordered.WellFormed ∧
    (venue == venueReordered) = true ∧
    (venueReordered == venue) = true ∧
    (venueReordered == venueReordered) = true ∧
    (∀ v, Reordered venue v → (v == venueReordered) = true) ∧
    (∀ path, (venue.at? path).map variant = (venueReordered.at? path).map variant) ∧
    Indistinguishable venue venueReordered := by
  have hwell : venue.WellFormed := by simp [venue, WellFormed, WellFormedItems, WellFormedFields]
  have hwell' : venueReordered.WellFormed := by
    simp [venueReordered, WellFormed, WellFormedItems, WellFormedFields]
  have hequal : (venue == venueReordered) = true := by decide
  obtain ⟨-, hcomm, -, hreorder, hvariants, hsame⟩ :=
    equality_laws venue venueReordered venue hwell hwell'
  have hequal' : (venueReordered == venue) = true := hcomm.symm.trans hequal
  obtain ⟨-, -, htrans, -⟩ := equality_laws venueReordered venue venueReordered hwell' hwell
  exact ⟨hwell, hwell', hequal, hequal', htrans hequal' hequal,
    fun v hv => (hreorder v venueReordered hv (.refl _)).trans hequal, hvariants hequal,
    hsame hequal⟩

end Value

end RecordSchema
