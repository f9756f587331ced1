import RecordSchema.Proofs.Document.Collapse
import RecordSchema.Proofs.Document.Resolution

/-!
# Texts and trees load alike

A text may repeat keys, its tree does not. Whatever a decoder of the schema document reads of
a text, it reads of the tree as well (`ReadsTree`), one decoder at a time. `text_tree_agree`:
a text that loads, or fails at a rule, does the same as its tree, and only a repeated key can
make a text malformed whose tree is not.
-/

namespace RecordSchema

open Json (Source)

/-- What a decoder reads of a source, it reads of the tree too. -/
def ReadsTree (read : Source → Option α) : Prop :=
  ∀ source a, read source = some a →
    ∃ tree, source.collapse? = some tree ∧ read tree = some a

-- ---------------------------------------------------------------------------
-- Leaves and lists
-- ---------------------------------------------------------------------------

theorem toJson?_readsTree : ReadsTree Source.toJson? := by
  intro source j h
  refine ⟨.ofJson j, by rw [Source.collapse?, h]; rfl, ?_⟩
  exact Source.toJson?_ofJson j (Source.wellFormed_of_toJson? source h)

theorem bool?_readsTree : ReadsTree Source.bool? := by
  intro source b h
  cases source with
  | bool => exact ⟨_, rfl, h⟩
  | _ => cases h

theorem string?_readsTree : ReadsTree Source.string? := by
  intro source s h
  cases source with
  | string =>
    cases h
    exact ⟨_, rfl, rfl⟩
  | _ => cases h

theorem ReadsTree.bind {read : Source → Option α} (h : ReadsTree read) (f : α → Option β) :
    ReadsTree fun s => (read s).bind f := by
  intro source b hread
  obtain ⟨a, ha, hb⟩ := Option.bind_eq_some_iff.mp hread
  obtain ⟨tree, htree, ha⟩ := h source a ha
  refine ⟨tree, htree, ?_⟩
  simp only [ha, Option.bind_some, hb]

theorem eq_null_of_collapse? {source : Source} (h : source.collapse? = some .null) :
    source = .null := by
  by_contra hnull
  obtain ⟨j, hj, htree⟩ := Option.map_eq_some_iff.mp h
  cases j with
  | null => exact Source.toJson?_ne_null hnull hj
  | _ => cases htree

theorem optional_readsTree {read : Source → Option α} (h : ReadsTree read) :
    ReadsTree (Source.optional read) := by
  intro source a hread
  by_cases hnull : source = .null
  · subst hnull
    exact ⟨.null, rfl, hread⟩
  · rw [Source.optional_of_ne_null hnull] at hread
    obtain ⟨b, hb, rfl⟩ := Option.map_eq_some_iff.mp hread
    obtain ⟨tree, htree, hb⟩ := h source b hb
    refine ⟨tree, htree, ?_⟩
    rw [Source.optional_of_ne_null, hb, Option.map_some]
    rintro rfl
    exact hnull (eq_null_of_collapse? htree)

theorem forall₂_comp {R : α → β → Prop} {S : β → γ → Prop} {xs : List α} {zs : List γ}
    (h : List.Forall₂ (fun x z => ∃ y, R x y ∧ S y z) xs zs) :
    ∃ ys, List.Forall₂ R xs ys ∧ List.Forall₂ S ys zs := by
  induction h with
  | nil => exact ⟨[], .nil, .nil⟩
  | cons hxz _ ih =>
    obtain ⟨y, hxy, hyz⟩ := hxz
    obtain ⟨ys, hxs, hys⟩ := ih
    exact ⟨y :: ys, .cons hxy hxs, .cons hyz hys⟩

theorem related_comp {R : α → β → Prop} {S : β → γ → Prop} {xs : List (String × α)}
    {zs : List (String × γ)} (h : Entries.Related (fun x z => ∃ y, R x y ∧ S y z) xs zs) :
    ∃ ys, Entries.Related R xs ys ∧ Entries.Related S ys zs :=
  forall₂_comp (h.imp fun x _ ⟨hkey, y, hxy, hyz⟩ => ⟨(x.1, y), ⟨rfl, hxy⟩, hkey, hyz⟩)

theorem items_readsTree {read : Source → Option α} (h : ReadsTree read) :
    ReadsTree (fun s => do (← s.items?).mapM read) := by
  intro source as hread
  obtain ⟨items, hitems, hread⟩ := Option.bind_eq_some_iff.mp hread
  cases source with
  | array =>
    cases hitems
    obtain ⟨trees, htrees, has⟩ :=
      forall₂_comp ((mapM_eq_some_iff.mp hread).imp fun item a ha => h item a ha)
    refine ⟨.array trees, ?_, mapM_eq_some_iff.mpr has⟩
    rw [Source.collapse?_array, mapM_eq_some_iff.mpr htrees]
    rfl
  | _ => cases hitems

theorem itemsToJson?_eq_mapM (items : List Source) :
    Source.itemsToJson? items = items.mapM Source.toJson? := by
  induction items with
  | nil => rfl
  | cons item rest ih => rw [Source.itemsToJson?, List.mapM_cons, ih]; rfl

theorem values_readsTree : ReadsTree (fun s => s.items?.bind Source.itemsToJson?) := by
  rw [funext itemsToJson?_eq_mapM]
  exact items_readsTree toJson?_readsTree

-- ---------------------------------------------------------------------------
-- Records
-- ---------------------------------------------------------------------------

/-- A member that may be left out. -/
theorem orDefault_readsTree {read : Source → Option α} {default : α} (h : ReadsTree read)
    (hslot : orDefault default read slot = some a) :
    (∀ member ∈ slot, (Source.collapse? member).isSome = true) ∧
      orDefault default read (slot.bind Source.collapse?) = some a := by
  cases slot with
  | none => exact ⟨nofun, hslot⟩
  | some member =>
    obtain ⟨tree, htree, hread⟩ := h member a hslot
    refine ⟨?_, by rw [Option.bind_some, htree]; exact hread⟩
    rintro _ ⟨⟩
    rw [htree]
    rfl

/-- A record reads its tree when its members do. -/
theorem record_readsTree {shape : Source.RecordShape} (hclosed : shape.closed = true)
    {decode : List (Option Source) → Option α}
    (h : ∀ slots a, decode slots = some a →
      (∀ slot ∈ slots, ∀ member ∈ slot, (Source.collapse? member).isSome = true) ∧
        decode (slots.map fun slot => slot.bind Source.collapse?) = some a) :
    ReadsTree (fun s => (s.slots? shape).bind decode) := by
  intro source a hread
  obtain ⟨slots, hslots, hread⟩ := Option.bind_eq_some_iff.mp hread
  obtain ⟨hmembers, hdecode⟩ := h slots a hread
  obtain ⟨tree, htree, hslots⟩ := Source.slots?_collapse? hclosed hslots hmembers
  refine ⟨tree, htree, ?_⟩
  simp only [hslots, Option.bind_some, hdecode]

-- ---------------------------------------------------------------------------
-- The decoders of the document
-- ---------------------------------------------------------------------------

theorem variant?_readsTree : ReadsTree Source.variant? := by
  intro source name h
  unfold Source.variant? at h
  split at h
  · cases h
    exact ⟨_, rfl, rfl⟩
  · cases h
    exact ⟨_, rfl, rfl⟩
  · cases h

theorem type_readsTree : ReadsTree PropertyType.ofSource? :=
  variant?_readsTree.bind PropertyType.ofName?

theorem slot?_collapse {named trees : List (String × Source)}
    (h : Entries.Related (fun value tree => value.collapse? = some tree) named trees)
    (hslot : Source.slot? named name = some slot) :
    Source.slot? (Entries.collapse trees) name = some (slot.bind Source.collapse?) := by
  rw [Source.slot?_of_nodup (Entries.nodup_collapse trees), h.collapse.lookup_eq_bind,
    Entries.lookup_collapse, ← List.getLast?_map, Source.filter_of_slot? hslot]
  cases slot <;> rfl

/-- A rule as an object: all of it is read, and two of its members count. -/
theorem RuleReference.ofSource?_ofNamed (named : List (String × Source)) :
    RuleReference.ofSource? (.ofNamed named) =
      (Source.ofNamed named).toJson?.bind fun _ =>
        (Source.slot? named "rule").bind fun rule => (rule.bind Source.string?).bind fun id =>
          (Source.slot? named "args").bind fun args =>
            (orDefault [] (fun s => s.items?.bind Source.itemsToJson?) args).bind fun args =>
              some ⟨id, args⟩ := by
  have hfields : (Source.ofNamed named).fields? = some named := Source.fields?_eq_some_iff.mpr rfl
  rw [Source.ofNamed] at hfields ⊢
  simp only [RuleReference.ofSource?, hfields, Option.bind_eq_bind, Option.bind_some]

theorem rule_readsTree : ReadsTree RuleReference.ofSource? := by
  intro source r h
  cases source with
  | string =>
    obtain ⟨id, rfl, rfl⟩ := Option.map_eq_some_iff.mp h
    exact ⟨_, rfl, rfl⟩
  | object fields =>
    obtain ⟨named, hnamed⟩ : ∃ named, Source.object fields = .ofNamed named := by
      obtain ⟨_, -, h⟩ := Option.bind_eq_some_iff.mp h
      obtain ⟨named, hnamed, -⟩ := Option.bind_eq_some_iff.mp h
      exact ⟨named, Source.fields?_eq_some_iff.mp hnamed⟩
    rw [hnamed, RuleReference.ofSource?_ofNamed] at h
    simp only [Option.bind_eq_some_iff] at h
    obtain ⟨j, hj, rule, hrule, id, ⟨value, hvalue, hid⟩, args, hargs, list, hlist, heq⟩ := h
    obtain ⟨tree, htree, hread⟩ := toJson?_readsTree _ j hj
    have hcollapse := htree
    rw [Source.collapse?_ofNamed] at hcollapse
    obtain ⟨trees, htrees, rfl⟩ := Option.map_eq_some_iff.mp hcollapse
    have hrelated := mapM_values_eq_some_iff.mp htrees
    obtain ⟨text, htext, hid⟩ := string?_readsTree value id hid
    obtain ⟨-, hlist⟩ := orDefault_readsTree values_readsTree hlist
    refine ⟨_, hnamed ▸ htree, ?_⟩
    rw [RuleReference.ofSource?_ofNamed, hread, slot?_collapse hrelated hrule,
      slot?_collapse hrelated hargs, hvalue]
    simp only [Option.bind_some, htext, hid, hlist]
    exact heq
  | _ => cases h

theorem options_readsTree : ReadsTree SchemaOptions.ofSource? := by
  refine record_readsTree rfl fun slots options h => ?_
  split at h
  · obtain ⟨b, hb, heq⟩ := Option.bind_eq_some_iff.mp h
    obtain ⟨hmember, hread⟩ := orDefault_readsTree bool?_readsTree hb
    refine ⟨List.forall_mem_singleton.mpr hmember, ?_⟩
    simp only [List.map_cons, List.map_nil, hread]
    exact heq
  · cases h

theorem property_readsTree : ReadsTree PropertyDocument.ofSource? := by
  refine record_readsTree rfl fun slots p h => ?_
  split at h
  · simp only [Option.bind_eq_bind, Option.bind_eq_some_iff] at h
    obtain ⟨type, htype, required, hrequired, values, hvalues, rule, hrule, default, hdefault,
      heq⟩ := h
    obtain ⟨mtype, htype⟩ := orDefault_readsTree (optional_readsTree type_readsTree) htype
    obtain ⟨mrequired, hrequired⟩ := orDefault_readsTree bool?_readsTree hrequired
    obtain ⟨mvalues, hvalues⟩ := orDefault_readsTree (optional_readsTree values_readsTree) hvalues
    obtain ⟨mrule, hrule⟩ := orDefault_readsTree (optional_readsTree rule_readsTree) hrule
    obtain ⟨mdefault, hdefault⟩ :=
      orDefault_readsTree (optional_readsTree toJson?_readsTree) hdefault
    refine ⟨?_, ?_⟩
    · simp only [List.forall_mem_cons]
      exact ⟨mtype, mrequired, mvalues, mrule, mdefault, List.forall_mem_nil _⟩
    · simp only [List.map_cons, List.map_nil, htype, hrequired, hvalues, hrule, hdefault,
        Option.bind_eq_bind, Option.bind_some]
      exact heq
  · cases h

theorem properties_readsTree : ReadsTree SchemaDocument.propertiesOfSource? := by
  intro source properties h
  simp only [SchemaDocument.propertiesOfSource?, Option.bind_eq_bind, Option.bind_eq_some_iff,
    Option.some.injEq] at h
  obtain ⟨named, hnamed, entries, hentries, rfl⟩ := h
  have hread : Entries.Related (fun value p => ∃ tree, value.collapse? = some tree ∧
      PropertyDocument.ofSource? tree = some p) named entries :=
    (mapM_values_eq_some_iff.mp hentries).imp fun _ _ hentry =>
      ⟨hentry.1, property_readsTree _ _ hentry.2⟩
  obtain ⟨trees, htrees, hentries⟩ := related_comp hread
  refine ⟨.ofNamed (Entries.collapse trees), ?_, ?_⟩
  · rw [Source.fields?_eq_some_iff.mp hnamed, Source.collapse?_ofNamed,
      mapM_values_eq_some_iff.mpr htrees]
    rfl
  · have hfields : (Source.ofNamed (Entries.collapse trees)).fields? = some _ :=
      Source.fields?_eq_some_iff.mpr rfl
    have hread := mapM_values_eq_some_iff.mpr hentries.collapse
    have hsame : OrderedMap.ofEntries (Entries.collapse entries) = .ofEntries entries :=
      OrderedMap.ext_entries (Entries.collapse_of_nodup (Entries.nodup_collapse entries))
    simp only [SchemaDocument.propertiesOfSource?, hfields, Option.bind_eq_bind,
      Option.bind_some, hread, hsame]

theorem document_readsTree : ReadsTree SchemaDocument.ofSource? := by
  refine record_readsTree rfl fun slots d h => ?_
  split at h
  · simp only [Option.bind_eq_bind, Option.bind_eq_some_iff] at h
    obtain ⟨properties, hproperties, options, hoptions, virtuals, hvirtuals, heq⟩ := h
    obtain ⟨mproperties, hproperties⟩ := orDefault_readsTree properties_readsTree hproperties
    obtain ⟨moptions, hoptions⟩ := orDefault_readsTree options_readsTree hoptions
    obtain ⟨mvirtuals, hvirtuals⟩ :=
      orDefault_readsTree (items_readsTree string?_readsTree) hvirtuals
    refine ⟨?_, ?_⟩
    · simp only [List.forall_mem_cons]
      exact ⟨mproperties, moptions, mvirtuals, List.forall_mem_nil _⟩
    · simp only [List.map_cons, List.map_nil, hproperties, hoptions, Option.bind_eq_bind,
        Option.bind_some]
      simp only [Option.bind_eq_bind] at hvirtuals
      rw [hvirtuals]
      exact heq
  · cases h

-- ---------------------------------------------------------------------------
-- Loading
-- ---------------------------------------------------------------------------

theorem Json.ofText?_eq (text : String) :
    Json.ofText? text = (Source.ofDocument? text).bind Source.toJson? := by
  rw [Json.ofText?, Source.ofDocument?]
  cases Source.ofText? text with
  | none => rfl
  | some source =>
    rw [Option.filter_some]
    by_cases hdepth : source.depth ≤ Source.maxDepth <;> simp [hdepth]

/-- A text whose document can be decoded. -/
theorem Schema.exists_document_of_ofText {text : String}
    (h : Schema.ofText text ≠ .error .malformed) :
    ∃ source d, Source.ofDocument? text = some source ∧
      SchemaDocument.ofSource? source = some d ∧ Schema.ofText text = d.resolve := by
  rw [Schema.ofText_eq] at h ⊢
  cases hd : (Source.ofDocument? text).bind SchemaDocument.ofSource? with
  | none =>
    rw [hd] at h
    exact absurd rfl h
  | some d =>
    obtain ⟨source, hsource, hread⟩ := Option.bind_eq_some_iff.mp hd
    exact ⟨source, d, hsource, hread, rfl⟩

/-- A text that loads, or fails at a rule, has a tree that does the same. A text that repeats
no key is malformed exactly when its tree is. Bytes are read as the text they encode. -/
theorem Schema.text_tree_agree (text : String) :
    (Schema.ofText text ≠ .error .malformed →
      ∃ j, Json.ofText? text = some j ∧ Schema.ofJson j = Schema.ofText text) ∧
    (∀ source j, Source.ofText? text = some source → source.DistinctKeys →
      Json.ofText? text = some j →
      (Schema.ofText text = .error .malformed ↔ Schema.ofJson j = .error .malformed)) ∧
    Schema.ofBytes text.toUTF8 = Schema.ofText text := by
  refine ⟨?_, ?_, ?_⟩
  · intro h
    obtain ⟨source, d, hsource, hd, hload⟩ := Schema.exists_document_of_ofText h
    obtain ⟨tree, htree, hread⟩ := document_readsTree source d hd
    obtain ⟨j, hj, rfl⟩ := Option.map_eq_some_iff.mp htree
    refine ⟨j, ?_, ?_⟩
    · rw [Json.ofText?_eq, hsource, Option.bind_some, hj]
    · rw [Schema.ofJson, Schema.ofSource_eq, hread, hload]
      rfl
  · intro source j hsource hkeys hj
    rw [Json.ofText?_eq] at hj
    obtain ⟨read, hread, hj⟩ := Option.bind_eq_some_iff.mp hj
    cases hsource.symm.trans (Option.filter_eq_some_iff.mp hread).1
    have hsame : Source.ofJson j = source := Source.ofJson_of_toJson? source hkeys hj
    rw [Schema.ofText_eq, hread, Schema.ofJson, hsame, Schema.ofSource_eq, Option.bind_some]
  · have htext : String.fromUTF8? text.toUTF8 = some text := dif_pos text.isValidUTF8
    rw [Schema.ofBytes, htext]

/-- A name declared twice, the second time with a default that repeats a key. -/
def shadowing : String :=
  "\x7b\"properties\":\x7b\"n\":\x7b\"validate\":\"isInt\"\x7d,\"n\":\x7b\"type\":\"int\","
    ++ "\"default\":\x7b\"k\":null,\"k\":true\x7d\x7d\x7d,\"virtuals\":[\"v\",\"v\"]\x7d"

/-- A section under a name that is not one. -/
def misspelling : String := "\x7b\"option\":\x7b\x7d\x7d"

def misspellingTree : Json := .object [("option", .object [])]

theorem Schema.text_tree_agree_shadowing :
    (Schema.ofText shadowing ≠ .error .malformed ∧
      ∃ j, Json.ofText? shadowing = some j ∧ Schema.ofJson j = Schema.ofText shadowing) ∧
    Source.ofText? misspelling = some (.ofJson misspellingTree) ∧
      (Source.ofJson misspellingTree).DistinctKeys ∧
      Json.ofText? misspelling = some misspellingTree ∧
      (Schema.ofText misspelling = .error .malformed ↔
        Schema.ofJson misspellingTree = .error .malformed) := by
  have hloads : Schema.ofText shadowing ≠ .error .malformed := by
    intro h
    have hok : (Schema.ofText shadowing).toBool = true := by decide +kernel
    rw [h] at hok
    cases hok
  have hsource : Source.ofText? misspelling = some (.ofJson misspellingTree) := by rfl
  have hkeys : (Source.ofJson misspellingTree).DistinctKeys := by
    simp [misspellingTree, Source.ofJson, Source.ofFields, Source.DistinctKeys,
      Source.DistinctKeysFields]
  have htree : Json.ofText? misspelling = some misspellingTree := by
    rw [Json.ofText?_eq, Source.ofDocument?, hsource, Option.filter_some_pos (by decide)]
    rfl
  exact ⟨⟨hloads, (Schema.text_tree_agree shadowing).1 hloads⟩, hsource, hkeys, htree,
    (Schema.text_tree_agree misspelling).2.1 _ _ hsource hkeys htree⟩

/-- A repeated section is malformed in the text and gone from the tree. -/
example : (Schema.ofText "\x7b\"virtuals\":1,\"virtuals\":[]\x7d").toBool = false ∧
    ((Json.ofText? "\x7b\"virtuals\":1,\"virtuals\":[]\x7d").any fun j =>
      (Schema.ofJson j).toBool) = true := by
  decide +kernel

end RecordSchema
