import RecordSchema.Proofs.Number.Membership
import RecordSchema.Proofs.Number.Overflow
import RecordSchema.Proofs.Value.TaggedInt

/-!
# The types of values

`HasType` is the table of types: what a type asks of a value, in terms of the numbers and the
texts that it denotes. `admits_iff_hasType`: the checker decides it.
-/

namespace RecordSchema

open Decimal (IsDigits IsInteger)

/-- Four digits, two and two, with hyphens between them. -/
inductive IsDate : List Char → Prop
  | mk (hyear : IsDigits year) (hyear' : year.length = 4)
      (hmonth : IsDigits month) (hmonth' : month.length = 2)
      (hday : IsDigits day) (hday' : day.length = 2) :
      IsDate (year ++ '-' :: (month ++ '-' :: day))

/-- Degrees, as a number or as a text. -/
inductive IsCoordinate : Value → Prop
  | number : IsCoordinate (.number n)
  | text (h : Binary64.IsFiniteText s) : IsCoordinate (.string s)

/-- What each type asks of a value. A geo point, a buffer or a date is never an object. -/
inductive HasType : PropertyType → Value → Prop
  | string : HasType .string (.string s)
  | boolean : HasType .boolean (.bool b)
  | buffer : HasType .buffer (.buffer bytes)
  | array : HasType .array (.array items)
  | object : HasType .object (.object fields)
  | whole {n : Number} {k : Int} (h : n.value = k) : HasType .int (.number n)
  | int (h : IsInteger x.raw.toList k) : HasType .int (.int x)
  | number : HasType .double (.number n)
  | double (h : Binary64.IsFiniteText x.raw) : HasType .double (.double x)
  | dateTime : HasType .datetime (.dateTime t)
  | date (h : IsDate s.toList) : HasType .datetime (.string s)
  | geoPoint : HasType .geoPoint (.geoPoint p)
  | degrees (hlat : fields.lookup "latitude" = some lat) (hlat' : IsCoordinate lat)
      (hlng : fields.lookup "longitude" = some lng) (hlng' : IsCoordinate lng) :
      HasType .geoPoint (.object fields)

-- ---------------------------------------------------------------------------
-- The checks of one type
-- ---------------------------------------------------------------------------

theorem Binary64.Finite.isWhole_iff {x : Finite} :
    x.isWhole = true ↔ ∃ k : Int, x.value = k := by
  have hdvd : x.isWhole = true ↔ (one : Int) ∣ x.units := by
    rw [Int.natCast_dvd, x.natAbs_units, Nat.dvd_iff_mod_eq_zero, isWhole, beq_iff_eq]
  rw [hdvd]
  constructor
  · rintro ⟨k, hk⟩
    exact ⟨k, value_eq_intCast.mpr (by rw [hk, Int.mul_comm])⟩
  · rintro ⟨k, hk⟩
    exact ⟨k, by rw [value_eq_intCast.mp hk, Int.mul_comm]⟩

theorem Number.isWhole_iff {n : Number} : n.isWhole = true ↔ ∃ k : Int, n.value = k := by
  cases n with
  | integer n hn => exact iff_of_true rfl ⟨n, rfl⟩
  | float x => exact x.isWhole_iff

theorem isDateText_iff {s : String} : isDateText s = true ↔ IsDate s.toList := by
  rw [isDateText]
  constructor
  · intro h
    split at h
    · rename_i a b c d e f g i hs
      have hdigit : ∀ x ∈ [a, b, c, d] ++ ([e, f] ++ [g, i]), x.isDigit = true :=
        List.all_eq_true.mp h
      obtain ⟨hyear, hrest⟩ := List.forall_mem_append.mp hdigit
      obtain ⟨hmonth, hday⟩ := List.forall_mem_append.mp hrest
      rw [hs]
      exact .mk ⟨List.cons_ne_nil _ _, hyear⟩ rfl ⟨List.cons_ne_nil _ _, hmonth⟩ rfl
        ⟨List.cons_ne_nil _ _, hday⟩ rfl
    · cases h
  · intro h
    generalize s.toList = cs at h
    obtain ⟨hyear, hyear', hmonth, hmonth', hday, hday'⟩ := h
    obtain ⟨a, b, c, d, rfl⟩ := List.length_eq_four.mp hyear'
    obtain ⟨e, f, rfl⟩ := List.length_eq_two.mp hmonth'
    obtain ⟨g, i, rfl⟩ := List.length_eq_two.mp hday'
    have hdigit : ∀ x ∈ [a, b, c, d] ++ ([e, f] ++ [g, i]), x.isDigit = true :=
      List.forall_mem_append.mpr ⟨hyear.2, List.forall_mem_append.mpr ⟨hmonth.2, hday.2⟩⟩
    exact List.all_eq_true.mpr hdigit

theorem isCoordinate_iff {c : Option Value} :
    isCoordinate c = true ↔ ∃ v, c = some v ∧ IsCoordinate v := by
  unfold isCoordinate
  split
  · rename_i n
    exact iff_of_true rfl ⟨_, rfl, .number⟩
  · rename_i s
    rw [Binary64.isSome_finite?_trim_iff]
    constructor
    · intro h
      exact ⟨_, rfl, .text h⟩
    · rintro ⟨_, ⟨⟩, ⟨⟩⟩
      assumption
  · rename_i hnumber hstring
    refine iff_of_false Bool.false_ne_true ?_
    rintro ⟨v, rfl, hv⟩
    cases hv with
    | number => exact hnumber _ rfl
    | text h => exact hstring _ rfl

-- ---------------------------------------------------------------------------
-- The table
-- ---------------------------------------------------------------------------

namespace PropertyType

theorem int_admits_number {n : Number} : int.admits (.number n) = true ↔ ∃ k : Int, n.value = k := by
  rw [admits, Number.isWhole_iff]

theorem int_admits_int {x : TaggedInt} :
    int.admits (.int x) = true ↔ ∃ k, IsInteger x.raw.toList k := by
  rw [admits, TaggedInt.isIntegral_iff]

theorem double_admits_double {x : TaggedDouble} :
    double.admits (.double x) = true ↔ Binary64.IsFiniteText x.raw := by
  rw [admits, TaggedDouble.toFinite?, Binary64.isSome_finite?_trim_iff]

theorem datetime_admits_string {s : String} :
    datetime.admits (.string s) = true ↔ IsDate s.toList := by
  rw [admits, isDateText_iff]

theorem geoPoint_admits_object {fields : List (String × Value)} :
    geoPoint.admits (.object fields) = true ↔
      (∃ lat, fields.lookup "latitude" = some lat ∧ IsCoordinate lat) ∧
        ∃ lng, fields.lookup "longitude" = some lng ∧ IsCoordinate lng := by
  rw [admits, Bool.and_eq_true, isCoordinate_iff, isCoordinate_iff]

/-- A type admits the values of the table and no others. -/
theorem admits_iff_hasType (t : PropertyType) (v : Value) : t.admits v = true ↔ HasType t v := by
  constructor
  · intro h
    cases t with
    | string =>
      cases v with
      | string s => exact .string
      | _ => cases h
    | int =>
      cases v with
      | number n =>
        obtain ⟨k, hk⟩ := int_admits_number.mp h
        exact .whole hk
      | int x =>
        obtain ⟨k, hk⟩ := int_admits_int.mp h
        exact .int hk
      | _ => cases h
    | double =>
      cases v with
      | number n => exact .number
      | double x => exact .double (double_admits_double.mp h)
      | _ => cases h
    | boolean =>
      cases v with
      | bool b => exact .boolean
      | _ => cases h
    | buffer =>
      cases v with
      | buffer bytes => exact .buffer
      | _ => cases h
    | array =>
      cases v with
      | array items => exact .array
      | _ => cases h
    | object =>
      cases v with
      | object fields => exact .object
      | _ => cases h
    | datetime =>
      cases v with
      | dateTime t => exact .dateTime
      | string s => exact .date (datetime_admits_string.mp h)
      | _ => cases h
    | geoPoint =>
      cases v with
      | geoPoint p => exact .geoPoint
      | object fields =>
        obtain ⟨⟨_, hlat, hlat'⟩, _, hlng, hlng'⟩ := geoPoint_admits_object.mp h
        exact .degrees hlat hlat' hlng hlng'
      | _ => cases h
  · intro h
    cases h with
    | string | boolean | buffer | array | object | number | dateTime | geoPoint => rfl
    | whole h => exact int_admits_number.mpr ⟨_, h⟩
    | int h => exact int_admits_int.mpr ⟨_, h⟩
    | double h => exact double_admits_double.mpr h
    | date h => exact datetime_admits_string.mpr h
    | degrees hlat hlat' hlng hlng' =>
      exact geoPoint_admits_object.mpr ⟨⟨_, hlat, hlat'⟩, _, hlng, hlng'⟩

end PropertyType

end RecordSchema
