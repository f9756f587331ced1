import RecordSchema.Proofs.Document.Tree
import RecordSchema.Proofs.Number.Membership
import RecordSchema.Proofs.Value.Parts
import RecordSchema.Value.Document

/-!
# Points on the globe

A point that is built from two doubles is in range. A decoded point is whatever two numbers the
document gives, so it is in range only when they are, and every point with finite coordinates is
decoded from some document (`built_or_decoded`).
-/

namespace RecordSchema

open Json (Source)

theorem Binary64.Finite.abs_value_le_iff {x : Finite} {degrees : Nat} :
    |x.value| ≤ degrees ↔ x.magnitude ≤ degrees * one := by
  have hone : (0 : ℚ) < one := by exact_mod_cast one_pos
  rw [value, abs_div, abs_of_pos hone, div_le_iff₀ hone, ← Int.cast_abs, Int.abs_eq_natAbs,
    natAbs_units]
  exact_mod_cast Iff.rfl

namespace Number

/-- Rounding an integer does not take it across a bound that is a double itself. -/
theorem abs_value_le_iff_of_nearestEven {n : Int} {x : Binary64.Finite} {bound : Nat}
    (hbound : bound < 2 ^ 53) (h : x.NearestEven n) : |x.value| ≤ bound ↔ |(n : ℚ)| ≤ bound := by
  have hdouble : ∀ k : Int, k.natAbs ≤ bound + 1 → ∃ y : Binary64.Finite, y.value = k :=
    fun k hk => Binary64.exists_value_eq (by omega)
  obtain ⟨upper, hupper⟩ := hdouble bound (by omega)
  obtain ⟨lower, hlower⟩ := hdouble (-bound) (by omega)
  obtain ⟨above, habove⟩ := hdouble (bound + 1) (by omega)
  obtain ⟨below, hbelow⟩ := hdouble (-(bound + 1)) (by omega)
  push_cast at hupper hlower habove hbelow
  rw [abs_le, abs_le]
  constructor
  · -- Past the bound there is the next integer first, a double as well, and it is not passed back.
    rintro ⟨hge, hle⟩
    constructor
    · by_contra hn
      have hn : n ≤ -(bound + 1 : Int) := by
        have : n < -(bound : Int) := by exact_mod_cast not_le.mp hn
        omega
      have hn : (n : ℚ) ≤ below.value := by rw [hbelow]; exact_mod_cast hn
      linarith [value_le_of_nearestEven h hn]
    · by_contra hn
      have hn : (bound + 1 : Int) ≤ n := by
        have : (bound : Int) < n := by exact_mod_cast not_le.mp hn
        omega
      have hn : above.value ≤ n := by rw [habove]; exact_mod_cast hn
      linarith [le_value_of_nearestEven h hn]
  · rintro ⟨hge, hle⟩
    rw [← hlower, ← hupper]
    exact ⟨le_value_of_nearestEven h (hlower ▸ hge), value_le_of_nearestEven h (hupper ▸ hle)⟩

theorem exists_toBinary64 (n : Number) : ∃ x, n.toBinary64 = .finite x := by
  cases n with
  | integer k hk => exact Binary64.exists_ofInt_eq (natAbs_le_of_inRange hk)
  | float x => exact ⟨x, rfl⟩

theorem abs_value_le_iff {n : Number} {bound : Nat} (hbound : bound < 2 ^ 53) :
    (∃ x, n.toBinary64 = .finite x ∧ |x.value| ≤ bound) ↔ |n.value| ≤ bound := by
  obtain ⟨x, hx⟩ := n.exists_toBinary64
  have hbounds : |x.value| ≤ bound ↔ |n.value| ≤ bound := by
    cases n with
    | integer k hk =>
      exact abs_value_le_iff_of_nearestEven hbound (Binary64.ofInt_nearestEven hx)
    | float y =>
      cases hx
      exact Iff.rfl
  simp only [hx, Binary64.finite.injEq, exists_eq_left', hbounds]

end Number

namespace GeoPoint

/-- Latitude within 90 degrees of the equator, longitude within 180 of the prime meridian. -/
structure InRange (p : GeoPoint) : Prop where
  latitude : ∃ x, p.latitude = .finite x ∧ |x.value| ≤ 90
  longitude : ∃ y, p.longitude = .finite y ∧ |y.value| ≤ 180

-- ---------------------------------------------------------------------------
-- Built from doubles
-- ---------------------------------------------------------------------------

theorem within_eq_some_iff {degrees : Nat} {b : Binary64} {x : Binary64.Finite} :
    within degrees b = some x ↔ b = .finite x ∧ |x.value| ≤ degrees := by
  rw [Binary64.Finite.abs_value_le_iff]
  cases b with
  | finite y =>
    rw [within, Option.ite_none_right_eq_some, Option.some.injEq, Binary64.finite.injEq]
    constructor
    · rintro ⟨hy, rfl⟩
      exact ⟨rfl, hy⟩
    · rintro ⟨rfl, hy⟩
      exact ⟨hy, rfl⟩
  | infinite | nan => simp [within]

theorem ofDegrees_eq_ok_iff {lat lng : Binary64} {p : GeoPoint} :
    ofDegrees lat lng = .ok p ↔ lat = p.latitude ∧ lng = p.longitude ∧ p.InRange := by
  have hsplit : ofDegrees lat lng = .ok p ↔
      ∃ x y, within 90 lat = some x ∧ within 180 lng = some y ∧ ⟨.finite x, .finite y⟩ = p := by
    unfold ofDegrees
    split
    · simp_all
    · split <;> simp_all
  simp only [hsplit, within_eq_some_iff]
  constructor
  · rintro ⟨x, y, ⟨rfl, hx⟩, ⟨rfl, hy⟩, rfl⟩
    exact ⟨rfl, rfl, ⟨x, rfl, hx⟩, ⟨y, rfl, hy⟩⟩
  · rintro ⟨rfl, rfl, ⟨x, hlat, hx⟩, ⟨y, hlng, hy⟩⟩
    exact ⟨x, y, ⟨hlat, hx⟩, ⟨hlng, hy⟩, by rw [← hlat, ← hlng]⟩

-- ---------------------------------------------------------------------------
-- Decoded
-- ---------------------------------------------------------------------------

/-- The document gives these two numbers for the coordinates. -/
def Gives (source : Source) (lat lng : Number) : Prop :=
  source.slots? shape = some [some (.number (some lat)), some (.number (some lng))]

theorem inRange_iff {p : GeoPoint} {lat lng : Number} (hlat : lat.toBinary64 = p.latitude)
    (hlng : lng.toBinary64 = p.longitude) :
    p.InRange ↔ |lat.value| ≤ 90 ∧ |lng.value| ≤ 180 := by
  have hlatitude : (∃ x, lat.toBinary64 = .finite x ∧ |x.value| ≤ (90 : Nat)) ↔
      |lat.value| ≤ (90 : Nat) := Number.abs_value_le_iff (by decide)
  have hlongitude : (∃ y, lng.toBinary64 = .finite y ∧ |y.value| ≤ (180 : Nat)) ↔
      |lng.value| ≤ (180 : Nat) := Number.abs_value_le_iff (by decide)
  rw [hlat] at hlatitude
  rw [hlng] at hlongitude
  push_cast at hlatitude hlongitude
  rw [← hlatitude, ← hlongitude]
  exact ⟨fun h => ⟨h.latitude, h.longitude⟩, fun h => ⟨h.1, h.2⟩⟩

theorem double?_eq_some_iff {source : Source} {x : Binary64.Finite} :
    source.double? = some x ↔ ∃ n, source = .number (some n) ∧ n.toBinary64 = .finite x := by
  have hfinite : ∀ b : Binary64, b.finite? = some x ↔ b = .finite x := by
    intro b
    cases b <;> simp [Binary64.finite?]
  unfold Source.double?
  split
  · rw [hfinite]
    simp
  · rename_i hnumber
    constructor
    · nofun
    · rintro ⟨n, rfl, -⟩
      exact (hnumber n rfl).elim

theorem ofSource?_eq_some_iff {source : Source} {p : GeoPoint} :
    ofSource? source = some p ↔ ∃ lat lng, Gives source lat lng ∧
      lat.toBinary64 = p.latitude ∧ lng.toBinary64 = p.longitude := by
  unfold ofSource?
  rw [Option.bind_eq_bind, Option.bind_eq_some_iff]
  constructor
  · rintro ⟨slots, hslots, h⟩
    split at h
    · simp only [Option.bind_eq_bind, Option.bind_eq_some_iff, Option.some.injEq] at h
      obtain ⟨_, hlatitude, _, hlongitude, rfl⟩ := h
      obtain ⟨lat, rfl, hlat⟩ := double?_eq_some_iff.mp hlatitude
      obtain ⟨lng, rfl, hlng⟩ := double?_eq_some_iff.mp hlongitude
      exact ⟨lat, lng, hslots, hlat, hlng⟩
    · cases h
  · rintro ⟨lat, lng, hslots, hlat, hlng⟩
    obtain ⟨x, hx⟩ := lat.exists_toBinary64
    obtain ⟨y, hy⟩ := lng.exists_toBinary64
    refine ⟨_, hslots, ?_⟩
    simp only [double?_eq_some_iff.mpr ⟨lat, rfl, hx⟩, double?_eq_some_iff.mpr ⟨lng, rfl, hy⟩,
      Option.bind_eq_bind, Option.bind_some, Option.some.injEq]
    rw [← hx, ← hy, hlat, hlng]

theorem isFinite_of_ofSource? {source : Source} {p : GeoPoint} (h : ofSource? source = some p) :
    p.IsFinite := by
  obtain ⟨lat, lng, -, hlat, hlng⟩ := ofSource?_eq_some_iff.mp h
  exact ⟨hlat ▸ lat.exists_toBinary64, hlng ▸ lng.exists_toBinary64⟩

/-- Other coordinates are written as `null`, which is no coordinate. -/
theorem ofJson?_toJson_iff (p : GeoPoint) : ofJson? p.toJson = some p ↔ p.IsFinite := by
  refine ⟨isFinite_of_ofSource?, ?_⟩
  obtain ⟨latitude, longitude⟩ := p
  rintro ⟨⟨x, rfl⟩, y, rfl⟩
  refine ofSource?_eq_some_iff.mpr ⟨.float x, .float y, ?_, rfl, rfl⟩
  have htree : toJson ⟨.finite x, .finite y⟩ =
      .object [("latitude", .number (.float x)), ("longitude", .number (.float y))] := rfl
  rw [Gives, htree, Source.slots?_object (by simp)]
  rfl

/-- A point can be built exactly when it is in range. It is decoded from the documents that give
numbers which round to its coordinates, in range or not. Then they are finite, and no point with
finite coordinates lacks such a document; nothing asks for the range afterwards. -/
theorem built_or_decoded (p : GeoPoint) :
    (∀ lat lng, ofDegrees lat lng = .ok p ↔ lat = p.latitude ∧ lng = p.longitude ∧ p.InRange) ∧
    (∀ source, ofSource? source = some p ↔ ∃ lat lng, Gives source lat lng ∧
      lat.toBinary64 = p.latitude ∧ lng.toBinary64 = p.longitude ∧
      (p.InRange ↔ |lat.value| ≤ 90 ∧ |lng.value| ≤ 180)) ∧
    (∀ source, ofSource? source = some p → p.IsFinite) ∧
    (ofJson? p.toJson = some p ↔ p.IsFinite) ∧
    PropertyType.geoPoint.admits (.geoPoint p) = true := by
  refine ⟨fun _ _ => ofDegrees_eq_ok_iff, fun source => ?_, fun _ => isFinite_of_ofSource?,
    ofJson?_toJson_iff p, rfl⟩
  rw [ofSource?_eq_some_iff]
  constructor
  · rintro ⟨lat, lng, hgives, hlat, hlng⟩
    exact ⟨lat, lng, hgives, hlat, hlng, inRange_iff hlat hlng⟩
  · rintro ⟨lat, lng, hgives, hlat, hlng, -⟩
    exact ⟨lat, lng, hgives, hlat, hlng⟩

theorem decoded_beyond_pole :
    ∃ p, ofText? "\x7b\"latitude\":91,\"longitude\":0\x7d" = some p ∧ ¬ p.InRange ∧
      PropertyType.geoPoint.admits (.geoPoint p) = true := by
  refine ⟨⟨.finite ⟨false, 91 * Binary64.one, by decide +kernel⟩, .finite (.zero false)⟩,
    by decide +kernel, ?_, rfl⟩
  rintro ⟨⟨x, hx, hrange⟩, -⟩
  cases hx
  have := Binary64.Finite.abs_value_le_iff.mp hrange
  revert this
  decide +kernel

end GeoPoint

end RecordSchema
