import RecordSchema.Proofs.Validation.Typing
import RecordSchema.Proofs.Value.RoundTrip

/-!
# Lowering keeps the verdict

A tagged value and the plain value it is lowered to are judged by different checks: the one reads
the text, the other meets a number, a text or an object. `lowered_verdict`: the verdicts agree, as
far as integers fit a word and coordinates are finite.
-/

namespace RecordSchema

open Decimal (IsInteger)

/-- The plain values that are lowered to: by kind, or through a document tree. -/
inductive Lowers : Value → Value → Prop
  | int : Lowers (.int x) x.toValue
  | double : Lowers (.double x) x.toValue
  | geoPoint : Lowers (.geoPoint p) p.toValue
  | document : Lowers v (.ofJson v.toJson)

-- ---------------------------------------------------------------------------
-- Both ways to lower
-- ---------------------------------------------------------------------------

theorem Lowers.eq (h : Lowers v w) : w = .ofJson v.toJson := by
  cases h with
  | int => exact (Value.ofJson_keeps.taggedInt _).symm
  | double => exact (Value.ofJson_keeps.taggedDouble _).symm
  | geoPoint => exact (Value.ofJson_keeps.geoPoint _).symm
  | document => rfl

/-- A tagged value has the document tree of the plain value that it stands for. -/
theorem Lowers.toJson_eq (h : Lowers v w) : w.toJson = v.toJson := by
  cases h with
  | int => exact Value.toJson_keeps.taggedInt _
  | double => exact Value.toJson_keeps.taggedDouble _
  | geoPoint => exact Value.toJson_keeps.geoPoint _
  | document => exact Value.toJson_ofJson _

theorem Lowers.int_eq (h : Lowers (.int x) w) : w = x.toValue :=
  h.eq.trans (Value.ofJson_keeps.taggedInt x)

theorem Lowers.double_eq (h : Lowers (.double x) w) : w = x.toValue :=
  h.eq.trans (Value.ofJson_keeps.taggedDouble x)

theorem Lowers.geoPoint_eq (h : Lowers (.geoPoint p) w) : w = p.toValue :=
  h.eq.trans (Value.ofJson_keeps.geoPoint p)

-- ---------------------------------------------------------------------------
-- What is left of the text
-- ---------------------------------------------------------------------------

theorem TaggedDouble.toValue_cases (x : TaggedDouble) :
    (Binary64.IsFiniteText x.raw ∧ ∃ y, x.toValue = .number (.float y)) ∨
      (¬ Binary64.IsFiniteText x.raw ∧ x.toValue = .string x.raw) := by
  unfold toValue lower
  rw [← Binary64.isSome_finite?_trim_iff, ← toFinite?]
  cases x.toFinite? with
  | some y => exact .inl ⟨rfl, y, rfl⟩
  | none => exact .inr ⟨Bool.false_ne_true, rfl⟩

/-- The text denotes an integer of a word. -/
def TaggedInt.FitsWord (x : TaggedInt) : Prop := ∃ n, IsInteger x.raw.toList n ∧ IsInt64 n

theorem TaggedInt.toValue_cases (x : TaggedInt) :
    (x.FitsWord ∧ ∃ n h, x.toValue = .number (.integer n h)) ∨
      (¬ x.FitsWord ∧ x.toValue = .string x.raw) := by
  by_cases h : x.FitsWord
  · obtain ⟨n, hx, hn⟩ := h
    exact .inl ⟨⟨n, hx, hn⟩, n, hn.int64Or, toValue_of_isInt64 hx hn⟩
  · have hnone : x.toInt64? = none := toInt64?_eq_none fun n hx hn => h ⟨n, hx, hn⟩
    exact .inr ⟨h, toValue_of_toInt64?_eq_none hnone⟩

-- ---------------------------------------------------------------------------
-- Verdicts
-- ---------------------------------------------------------------------------

namespace PropertyType

theorem double_admits_lowered (h : Lowers (.double x) w) :
    double.admits w = true ↔ double.admits (.double x) = true := by
  rw [h.double_eq, double_admits_double]
  rcases x.toValue_cases with ⟨hx, y, hw⟩ | ⟨hx, hw⟩
  · rw [hw]
    exact iff_of_true rfl hx
  · rw [hw]
    exact iff_of_false Bool.false_ne_true hx

theorem int_admits_lowered (h : Lowers (.int x) w) :
    int.admits w = true ↔ int.admits (.int x) = true ∧ x.FitsWord := by
  rw [h.int_eq, int_admits_int]
  rcases x.toValue_cases with ⟨hx, n, hn, hw⟩ | ⟨hx, hw⟩
  · rw [hw]
    exact iff_of_true rfl ⟨hx.imp fun _ => And.left, hx⟩
  · rw [hw]
    exact iff_of_false Bool.false_ne_true fun h => hx h.2

/-- Only a finite coordinate is lowered to a number. -/
theorem isCoordinate_ofDouble_iff {x : Binary64} :
    isCoordinate (some (Value.ofDouble x)) = true ↔ ∃ y, x = .finite y := by
  cases x with
  | finite y => exact iff_of_true rfl ⟨y, rfl⟩
  | infinite | nan => exact iff_of_false Bool.false_ne_true nofun

theorem geoPoint_admits_lowered (h : Lowers (.geoPoint p) w) :
    geoPoint.admits w = true ↔ p.IsFinite := by
  rw [h.geoPoint_eq, GeoPoint.IsFinite, ← isCoordinate_ofDouble_iff, ← isCoordinate_ofDouble_iff,
    ← Bool.and_eq_true]
  rfl

/-- Tagged values and what they are lowered to get the same verdict of their type: doubles always,
geo points, which are all accepted, when their coordinates are finite, and integers that fit a
word. Where the text denotes no such number, the lowered value is no number of either type. -/
theorem lowered_verdict (d : TaggedDouble) (p : GeoPoint) (x : TaggedInt) :
    (∀ w, Lowers (.double d) w →
      (double.admits w = true ↔ double.admits (.double d) = true) ∧
      (¬ Binary64.IsFiniteText d.raw → int.admits w = false ∧ double.admits w = false)) ∧
    (∀ w, Lowers (.geoPoint p) w →
      (geoPoint.admits w = true ↔ p.IsFinite) ∧ geoPoint.admits (.geoPoint p) = true) ∧
    (∀ w, Lowers (.int x) w → (int.admits w = true ↔ int.admits (.int x) = true ∧ x.FitsWord) ∧
      (¬ x.FitsWord → int.admits w = false ∧ double.admits w = false)) := by
  refine ⟨fun w hw => ⟨double_admits_lowered hw, fun hd => ?_⟩, fun w hw => ?_,
    fun w hw => ⟨int_admits_lowered hw, fun hx => ?_⟩⟩
  · rw [hw.double_eq, (d.toValue_cases.resolve_left fun h => hd h.1).2]
    exact ⟨rfl, rfl⟩
  · exact ⟨geoPoint_admits_lowered hw, rfl⟩
  · rw [hw.int_eq, (x.toValue_cases.resolve_left fun h => hx h.1).2]
    exact ⟨rfl, rfl⟩

/-- A word that is no number, and the first integer beyond the word. -/
theorem lowered_verdict_unparsable :
    double.admits (.ofJson (Value.double ⟨"north"⟩).toJson) = false ∧
    int.admits (TaggedInt.toValue ⟨"9223372036854775808"⟩) = false := by
  have hword : ¬ Binary64.IsFiniteText "north" := fun h =>
    absurd (Binary64.isSome_finite?_trim_iff.mpr h) (by decide +kernel)
  have hbeyond : ¬ TaggedInt.FitsWord ⟨"9223372036854775808"⟩ := by
    rintro ⟨n, hn⟩
    have hnone : TaggedInt.toInt64? ⟨"9223372036854775808"⟩ = none := by decide +kernel
    rw [TaggedInt.toInt64?_eq_some_iff.mpr hn] at hnone
    cases hnone
  obtain ⟨hdouble, -, hint⟩ := lowered_verdict ⟨"north"⟩ ⟨.nan, .nan⟩ ⟨"9223372036854775808"⟩
  exact ⟨((hdouble _ .document).2 hword).2, ((hint _ .int).2 hbeyond).1⟩

end PropertyType

end RecordSchema
