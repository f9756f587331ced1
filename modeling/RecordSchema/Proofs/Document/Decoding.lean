import Mathlib.Data.List.Nodup
import RecordSchema.Proofs.Document.Grammar
import RecordSchema.Proofs.Rule.Registry
import RecordSchema.Schema.Loader

/-!
# Decoding schema documents

Each decoder accepts the trees of one form of the grammar (`Decodes`), and those of
records do so when their members are of the right forms (`record_decodes`).
`Schema.ofJson_ne_malformed_iff`: the loader finds a tree malformed exactly when it is
no schema document. What a rule makes of its arguments is a different defect.
-/

namespace RecordSchema

open Grammar
open Json (Source)

-- ---------------------------------------------------------------------------
-- Decoding a form
-- ---------------------------------------------------------------------------

/-- A decoder accepts the trees of a form. -/
def Decodes (read : Source → Option α) (form : Json → Prop) : Prop :=
  ∀ j : Json, j.WellFormed → ((read (.ofJson j)).isSome = true ↔ form j)

theorem toJson?_decodes : Decodes Source.toJson? fun _ => True := by
  intro j hj
  simp [Source.toJson?_ofJson j hj]

theorem bool?_decodes : Decodes Source.bool? IsBool := by
  intro j _
  cases j with
  | bool b => exact iff_of_true rfl .bool
  | _ => exact iff_of_false nofun nofun

theorem string?_decodes : Decodes Source.string? IsString := by
  intro j _
  cases j with
  | string s => exact iff_of_true rfl .string
  | _ => exact iff_of_false nofun nofun

theorem optional_decodes {read : Source → Option α} (h : Decodes read form) :
    Decodes (Source.optional read) (IsNullOr form) := by
  intro j hj
  cases j with
  | null => exact iff_of_true rfl (.inl rfl)
  | _ =>
    rw [IsNullOr, ← h _ hj]
    simp [Source.ofJson, Source.optional]

theorem any_const (x : Option α) (b : Bool) : x.any (fun _ => b) = (x.isSome && b) := by
  cases x <;> rfl

theorem items_decodes {read : Source → Option α} (h : Decodes read form) :
    Decodes (fun s => do (← s.items?).mapM read) (IsArrayOf form) := by
  intro j hj
  cases j with
  | array items =>
    have hitems : ∀ item ∈ items, item.WellFormed := Json.wellFormedItems_iff.mp hj
    simp only [Source.ofJson, Source.items?, Source.ofItems_eq_map, Option.bind_eq_bind,
      Option.bind_some, isSome_mapM, List.forall_mem_map]
    constructor
    · intro hread
      exact .array fun item hi => (h item (hitems item hi)).mp (hread item hi)
    · rintro ⟨hform⟩ item hi
      exact (h item (hitems item hi)).mpr (hform item hi)
  | _ => exact iff_of_false nofun nofun

theorem values_decodes :
    Decodes (fun s => s.items?.bind Source.itemsToJson?) (IsArrayOf fun _ => True) := by
  intro j hj
  cases j with
  | array items =>
    refine iff_of_true ?_ (.array fun _ _ => trivial)
    have hread := Source.itemsToJson?_ofItems items hj
    simp only [Source.ofJson, Source.items?, Option.bind_some, hread, Option.isSome_some]
  | _ => exact iff_of_false nofun nofun

/-- A member that may be left out. -/
theorem orDefault_decodes {read : Source → Option α} (h : Decodes read form) {slot : Option Json}
    (hslot : ∀ j ∈ slot, j.WellFormed) (default : α) :
    (orDefault default read (slot.map .ofJson)).isSome = true ↔ ∀ j ∈ slot, form j := by
  cases slot with
  | none => simp [orDefault]
  | some j => simpa [orDefault] using h j (hslot j rfl)

-- ---------------------------------------------------------------------------
-- Records
-- ---------------------------------------------------------------------------

/-- Keys that are distinct leave no choice of the member. -/
theorem isRecord_object_iff {members : List (String × (Json → Prop))}
    {fields : List (String × Json)} (hmembers : (members.map Prod.fst).Nodup)
    (hfields : (fields.map Prod.fst).Nodup) (fewest : Nat) :
    IsRecord members fewest (.object fields) ↔
      (∀ field ∈ fields, field.1 ∈ members.map Prod.fst) ∧
        ∀ member ∈ members, ∀ j ∈ fields.lookup member.1, member.2 j := by
  constructor
  · rintro ⟨h⟩
    constructor
    · intro field hf
      obtain ⟨member, hm, heq, -⟩ := h field hf
      exact List.mem_map.mpr ⟨member, hm, heq⟩
    · intro member hm j hj
      obtain ⟨other, ho, heq, hform⟩ := h _ (Entries.mem_of_lookup hj)
      rwa [← List.inj_on_of_nodup_map hmembers ho hm heq]
  · rintro ⟨hkeys, hforms⟩
    refine .object fun field hf => ?_
    obtain ⟨member, hm, heq⟩ := List.mem_map.mp (hkeys field hf)
    refine ⟨member, hm, heq, hforms member hm _ ?_⟩
    rw [heq]
    exact (Entries.lookup_eq_some_iff_mem hfields).mpr hf

/-- What is given of the members of a record is of their forms. -/
def Fits (members : List (String × (Json → Prop))) (slots : List (Option Json)) : Prop :=
  ∀ pair ∈ slots.zip members, ∀ j ∈ pair.1, pair.2.2 j

theorem fits_map (members : List (String × (Json → Prop)))
    (find : String × (Json → Prop) → Option Json) :
    Fits members (members.map find) ↔ ∀ member ∈ members, ∀ j ∈ find member, member.2 j := by
  induction members with
  | nil => simp [Fits]
  | cons member rest ih => simpa [Fits] using fun _ => ih

/-- Members that an array leaves out may have any form. -/
theorem fits_pad (members : List (String × (Json → Prop))) (items : List Json) :
    Fits members (items.map some ++ List.replicate (members.length - items.length) none) ↔
      ∀ pair ∈ items.zip members, pair.2.2 pair.1 := by
  induction items generalizing members with
  | nil =>
    refine iff_of_true ?_ (by simp)
    intro pair hp j hj
    have hnone := List.eq_of_mem_replicate (List.of_mem_zip hp).1
    rw [hnone] at hj
    cases hj
  | cons item rest ih =>
    cases members with
    | nil => simp [Fits]
    | cons member others => simpa [Fits] using fun _ => ih others

/-- What a decoder sees of a tree that should be a record: nothing, or the members in order. -/
inductive ReadRecord (members : List (String × (Json → Prop))) (fewest : Nat) (j : Json) : Prop
  | refused (hslots : (Source.ofJson j).slots? ⟨members.map Prod.fst, true, fewest⟩ = none)
      (hform : ¬ IsRecord members fewest j)
  | read (slots : List (Option Json))
      (hslots : (Source.ofJson j).slots? ⟨members.map Prod.fst, true, fewest⟩ =
        some (slots.map (Option.map .ofJson)))
      (hlength : slots.length = members.length)
      (hwell : ∀ slot ∈ slots, ∀ v ∈ slot, v.WellFormed)
      (hform : IsRecord members fewest j ↔ Fits members slots)

theorem readRecord_object {members : List (String × (Json → Prop))}
    (hmembers : (members.map Prod.fst).Nodup) {fields : List (String × Json)}
    (hj : (Json.object fields).WellFormed) (fewest : Nat) :
    ReadRecord members fewest (.object fields) := by
  have hslots := Source.slots?_object hj.1 ⟨members.map Prod.fst, true, fewest⟩
  have hform := isRecord_object_iff hmembers hj.1 fewest
  by_cases hkeys : ∀ field ∈ fields, field.1 ∈ members.map Prod.fst
  · have hall : fields.all (fun field => (members.map Prod.fst).contains field.1) = true := by
      simpa only [List.all_eq_true, List.contains_iff_mem] using hkeys
    refine .read (members.map fun member => fields.lookup member.1) ?_ (List.length_map _) ?_ ?_
    · rw [hslots, hall, List.map_map, List.map_map]
      rfl
    · intro slot hs v hv
      obtain ⟨member, -, rfl⟩ := List.mem_map.mp hs
      exact Json.wellFormedFields_iff.mp hj.2 _ (Entries.mem_of_lookup hv)
    · rw [hform, fits_map]
      exact and_iff_right hkeys
  · have hall : fields.all (fun field => (members.map Prod.fst).contains field.1) = false := by
      rw [Bool.eq_false_iff]
      simpa only [ne_eq, List.all_eq_true, List.contains_iff_mem] using hkeys
    refine .refused ?_ fun h => hkeys (hform.mp h).1
    rw [hslots, hall]
    rfl

theorem readRecord_array (members : List (String × (Json → Prop))) {items : List Json}
    (hj : (Json.array items).WellFormed) (fewest : Nat) :
    ReadRecord members fewest (.array items) := by
  have hslots := Source.slots?_array items ⟨members.map Prod.fst, true, fewest⟩
  rw [List.length_map] at hslots
  by_cases hlength : fewest ≤ items.length ∧ items.length ≤ members.length
  · rw [if_pos hlength] at hslots
    refine .read (items.map some ++ List.replicate (members.length - items.length) none) ?_ ?_ ?_ ?_
    · rw [hslots, List.map_append, List.map_map, List.map_replicate]
      rfl
    · rw [List.length_append, List.length_map, List.length_replicate]
      exact Nat.add_sub_of_le hlength.2
    · intro slot hs v hv
      cases hv
      rcases List.mem_append.mp hs with hi | hr
      · obtain ⟨item, hi, heq⟩ := List.mem_map.mp hi
        cases heq
        exact Json.wellFormedItems_iff.mp hj _ hi
      · cases List.eq_of_mem_replicate hr
    · rw [fits_pad]
      constructor
      · rintro ⟨⟩
        assumption
      · exact .array hlength.1 hlength.2
  · rw [if_neg hlength] at hslots
    refine .refused hslots ?_
    rintro ⟨⟩
    exact hlength ⟨by assumption, by assumption⟩

theorem readRecord (members : List (String × (Json → Prop)))
    (hmembers : (members.map Prod.fst).Nodup) {j : Json} (hj : j.WellFormed) (fewest : Nat) :
    ReadRecord members fewest j := by
  cases j with
  | object fields => exact readRecord_object hmembers hj fewest
  | array items => exact readRecord_array members hj fewest
  | _ => exact .refused rfl nofun

/-- A record is decoded when its members are. -/
theorem record_decodes (members : List (String × (Json → Prop)))
    (hmembers : (members.map Prod.fst).Nodup) (fewest : Nat)
    {decode : List (Option Source) → Option α}
    (h : ∀ slots : List (Option Json), slots.length = members.length →
      (∀ slot ∈ slots, ∀ v ∈ slot, v.WellFormed) →
      ((decode (slots.map (Option.map .ofJson))).isSome = true ↔ Fits members slots)) :
    Decodes (fun s => (s.slots? ⟨members.map Prod.fst, true, fewest⟩).bind decode)
      (IsRecord members fewest) := by
  intro j hj
  cases readRecord members hmembers hj fewest with
  | refused hslots hform =>
    simp only [hslots]
    exact iff_of_false Bool.false_ne_true hform
  | read slots hslots hlength hwell hform =>
    simp only [hslots]
    exact (h slots hlength hwell).trans hform.symm

-- ---------------------------------------------------------------------------
-- The decoders of the document
-- ---------------------------------------------------------------------------

theorem ofName?_isSome_iff :
    (PropertyType.ofName? name).isSome = true ↔ ∃ t, PropertyType.name t = name := by
  constructor
  · intro h
    obtain ⟨t, -, ht⟩ := List.find?_isSome.mp h
    exact ⟨t, eq_of_beq ht⟩
  · rintro ⟨t, rfl⟩
    rw [PropertyType.ofName?_name]
    rfl

theorem isType_string_iff : IsType (.string name) ↔ ∃ t, PropertyType.name t = name := by
  constructor
  · rintro ⟨⟩
    exact ⟨_, rfl⟩
  · rintro ⟨t, rfl⟩
    exact .name t

theorem isType_variant_iff :
    IsType (.object [(name, .null)]) ↔ ∃ t, PropertyType.name t = name := by
  constructor
  · rintro ⟨⟩
    exact ⟨_, rfl⟩
  · rintro ⟨t, rfl⟩
    exact .variant t

theorem type_decodes : Decodes PropertyType.ofSource? IsType := by
  intro j _
  cases j with
  | string name => exact ofName?_isSome_iff.trans isType_string_iff.symm
  | object fields =>
    cases fields with
    | nil => exact iff_of_false nofun nofun
    | cons field rest =>
      obtain ⟨name, j⟩ := field
      cases rest with
      | cons _ _ =>
        refine iff_of_false ?_ nofun
        simp [PropertyType.ofSource?, Source.ofJson, Source.ofFields, Source.variant?]
      | nil =>
        cases j with
        | null => exact ofName?_isSome_iff.trans isType_variant_iff.symm
        | _ => exact iff_of_false nofun nofun
  | _ => exact iff_of_false nofun nofun

theorem isRule_object_iff {fields : List (String × Json)} (h : (fields.map Prod.fst).Nodup) :
    IsRule (.object fields) ↔ (∃ s, fields.lookup "rule" = some (.string s)) ∧
      ∀ args ∈ fields.lookup "args", IsArrayOf (fun _ => True) args := by
  simp only [Entries.lookup_eq_some_iff_mem h, Option.mem_def]
  constructor
  · rintro ⟨⟩
    exact ⟨⟨_, by assumption⟩, by assumption⟩
  · rintro ⟨⟨s, hs⟩, hargs⟩
    exact .object hs hargs

theorem rule_decodes : Decodes RuleReference.ofSource? IsRule := by
  intro j hj
  cases j with
  | string s => exact iff_of_true rfl .name
  | object fields =>
    have hargs : ∀ args ∈ fields.lookup "args", args.WellFormed := fun args ha =>
      Json.wellFormedFields_iff.mp hj.2 _ (Entries.mem_of_lookup ha)
    have hread : RuleReference.ofSource? (.ofJson (.object fields)) =
        ((fields.lookup "rule").map Source.ofJson).bind fun rule => rule.string?.bind fun id =>
          (orDefault [] (fun s => s.items?.bind Source.itemsToJson?)
            ((fields.lookup "args").map Source.ofJson)).bind fun args => some ⟨id, args⟩ := by
      simp only [Source.ofJson, RuleReference.ofSource?]
      rw [← Source.ofJson, Source.toJson?_ofJson _ hj, Source.fields?_ofJson]
      simp only [Option.bind_eq_bind, Option.bind_some, Source.slot?_map_ofJson hj.1,
        Option.bind_assoc]
    rw [hread, isRule_object_iff hj.1, ← orDefault_decodes values_decodes hargs []]
    cases hrule : fields.lookup "rule" with
    | none => simp
    | some rule =>
      cases rule with
      | string s => simp [Source.ofJson, Source.string?, Option.isSome_bind]
      | _ => simp [Source.ofJson, Source.string?]
  | _ => exact iff_of_false nofun nofun

theorem options_decodes : Decodes SchemaOptions.ofSource? IsOptions := by
  refine record_decodes optionMembers (by decide) 0 fun slots hlength hwell => ?_
  match slots, hlength with
  | [explicitOnly], _ =>
    have hexplicit : ∀ v ∈ explicitOnly, v.WellFormed := hwell _ List.mem_cons_self
    simp only [Fits, optionMembers, List.zip_cons_cons, List.zip_nil_left,
      List.forall_mem_singleton]
    rw [← orDefault_decodes bool?_decodes hexplicit SchemaOptions.initial.explicitOnly]
    simp only [List.map_cons, List.map_nil, Option.bind_eq_bind, Option.isSome_bind,
      Option.isSome_some, any_const, Bool.and_true]

theorem property_decodes : Decodes PropertyDocument.ofSource? IsProperty := by
  refine record_decodes propertyMembers (by decide) 5 fun slots hlength hwell => ?_
  match slots, hlength with
  | [type, required, values, rule, default], _ =>
    simp only [List.forall_mem_cons] at hwell
    obtain ⟨htype, hrequired, hvalues, hrule, hdefault, -⟩ := hwell
    have hany := (orDefault_decodes (optional_decodes toJson?_decodes) hdefault none).mpr
      fun _ _ => .inr trivial
    simp only [Fits, propertyMembers, List.zip_cons_cons, List.zip_nil_left, List.forall_mem_cons,
      List.not_mem_nil, false_implies, implies_true, and_true]
    rw [← orDefault_decodes (optional_decodes type_decodes) htype none,
      ← orDefault_decodes bool?_decodes hrequired false,
      ← orDefault_decodes (optional_decodes values_decodes) hvalues none,
      ← orDefault_decodes (optional_decodes rule_decodes) hrule none]
    simp only [List.map_cons, List.map_nil, Option.bind_eq_bind, Option.isSome_bind,
      Option.isSome_some, any_const, hany, Bool.and_true, Bool.and_eq_true]

theorem properties_decodes :
    Decodes SchemaDocument.propertiesOfSource? (IsMapOf IsProperty) := by
  intro j hj
  cases j with
  | object fields =>
    have hfields : ∀ field ∈ fields, field.2.WellFormed := Json.wellFormedFields_iff.mp hj.2
    simp only [SchemaDocument.propertiesOfSource?, Source.fields?_ofJson, Option.bind_eq_bind,
      Option.bind_some, Option.isSome_bind, Option.isSome_some, any_const, Bool.and_true,
      isSome_mapM, List.forall_mem_map, Option.isSome_map]
    constructor
    · intro hread
      exact .object fun field hf => (property_decodes _ (hfields field hf)).mp (hread field hf)
    · rintro ⟨hform⟩ field hf
      exact (property_decodes _ (hfields field hf)).mpr (hform field hf)
  | _ => exact iff_of_false nofun nofun

theorem document_decodes : Decodes SchemaDocument.ofSource? IsDocument := by
  refine record_decodes documentMembers (by decide) 0 fun slots hlength hwell => ?_
  match slots, hlength with
  | [properties, options, virtuals], _ =>
    simp only [List.forall_mem_cons] at hwell
    obtain ⟨hproperties, hoptions, hvirtuals, -⟩ := hwell
    simp only [Fits, documentMembers, List.zip_cons_cons, List.zip_nil_left, List.forall_mem_cons,
      List.not_mem_nil, false_implies, implies_true, and_true]
    rw [← orDefault_decodes properties_decodes hproperties ∅,
      ← orDefault_decodes options_decodes hoptions .initial,
      ← orDefault_decodes (items_decodes string?_decodes) hvirtuals []]
    simp only [List.map_cons, List.map_nil, Option.bind_eq_bind, Option.isSome_bind,
      Option.isSome_some, any_const, Bool.and_true, Bool.and_eq_true]

-- ---------------------------------------------------------------------------
-- Loading
-- ---------------------------------------------------------------------------

/-- Resolving the rules of a document finds other defects. -/
theorem bind_ne_malformed {x : Except SchemaError α} {f : α → Except SchemaError β}
    (hx : x ≠ .error .malformed) (hf : ∀ a, f a ≠ .error .malformed) :
    (x >>= f) ≠ .error .malformed := by
  cases x with
  | error e => exact fun h => hx (by cases h; rfl)
  | ok a => exact hf a

theorem Library.resolve_ne_malformed (name : String) (args : List Json) :
    Library.resolve name args ≠ .error .malformed := by
  intro h
  obtain ⟨-, hunknown⟩ | ⟨-, cause, hrefused⟩ := Library.resolve_error_cases h
  · cases hunknown
  · cases hrefused

theorem RuleReference.resolve_ne_malformed (r : RuleReference) :
    r.resolve ≠ .error .malformed := by
  have h := Library.resolve_ne_malformed r.id r.args
  rw [RuleReference.resolve, Rule.ofName]
  cases hr : Library.resolve r.id r.args with
  | error e =>
    rw [hr] at h
    exact fun heq => h (by cases heq; rfl)
  | ok check => nofun

theorem PropertyDocument.resolve_ne_malformed (p : PropertyDocument) :
    p.resolve ≠ .error .malformed := by
  unfold PropertyDocument.resolve
  refine bind_ne_malformed ?_ fun _ => nofun
  cases p.rule with
  | none => nofun
  | some r => exact bind_ne_malformed r.resolve_ne_malformed fun _ => nofun

theorem SchemaDocument.resolve_ne_malformed (d : SchemaDocument) :
    d.resolve ≠ .error .malformed := by
  unfold SchemaDocument.resolve
  refine bind_ne_malformed ?_ fun _ => nofun
  generalize Schema.empty.withOptions d.options = s
  induction d.properties.entries generalizing s with
  | nil => nofun
  | cons entry rest ih =>
    rw [List.foldlM_cons]
    refine bind_ne_malformed ?_ fun s => ih s
    exact bind_ne_malformed entry.2.resolve_ne_malformed fun _ => nofun

/-- A tree is malformed exactly when it is no schema document. -/
theorem Schema.ofJson_ne_malformed_iff {j : Json} (hj : j.WellFormed) :
    Schema.ofJson j ≠ .error .malformed ↔ IsDocument j := by
  rw [← document_decodes j hj, Schema.ofJson, Schema.ofSource]
  cases SchemaDocument.ofSource? (.ofJson j) with
  | none => simp
  | some d => simpa using d.resolve_ne_malformed

/-- A document that declares one property, with one member under this key. -/
def declaring (key : String) : Json :=
  .object [("properties", .object [("id", .object [(key, .bool true)])])]

theorem Schema.ofJson_declaring :
    ((declaring "required").WellFormed ∧
        Schema.ofJson (declaring "required") ≠ .error .malformed) ∧
      (declaring "require").WellFormed ∧
        Schema.ofJson (declaring "require") = .error .malformed := by
  have hspelt : (declaring "required").WellFormed := by
    simp [declaring, Json.WellFormed, Json.WellFormedFields]
  have hmisspelt : (declaring "require").WellFormed := by
    simp [declaring, Json.WellFormed, Json.WellFormedFields]
  refine ⟨⟨hspelt, (Schema.ofJson_ne_malformed_iff hspelt).mpr ?_⟩, hmisspelt, ?_⟩
  · have hproperty : IsProperty (.object [("required", .bool true)]) := by
      refine .object (List.forall_mem_singleton.mpr ⟨("required", IsBool), ?_, rfl, .bool⟩)
      simp [propertyMembers]
    refine .object (List.forall_mem_singleton.mpr ⟨("properties", IsMapOf IsProperty), ?_, rfl, ?_⟩)
    · simp [documentMembers]
    · exact .object (List.forall_mem_singleton.mpr hproperty)
  · by_contra h
    have hdocument := (Schema.ofJson_ne_malformed_iff hmisspelt).mp h
    have hforms := ((isRecord_object_iff (by decide) hmisspelt.1 0).mp hdocument).2
    obtain ⟨hproperties⟩ :
        IsMapOf IsProperty (.object [("id", .object [("require", .bool true)])]) :=
      hforms ("properties", IsMapOf IsProperty) (by simp [documentMembers]) _ rfl
    have hproperty := hproperties _ List.mem_cons_self
    have hkeys := ((isRecord_object_iff (by decide) (by simp) 5).mp hproperty).1
    exact absurd (hkeys _ List.mem_cons_self) (by decide)

end RecordSchema
