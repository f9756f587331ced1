import RecordSchema.Proofs.Document.Tree
import RecordSchema.Schema.Loader

/-!
# Loading is all or nothing

A document that cannot be decoded is malformed. One that can is read in the order of its
names, each as it is declared last, field by field (`SchemaDocument.ReadFrom`,
`PropertyDocument.ReadFrom`); then the first rule that does not resolve is the error
(`FirstDefect`), and when every rule resolves the whole document is declared (`Declares`).
`load_all_or_nothing` says so of trees, texts and bytes.
-/

namespace RecordSchema

open Json (Source)

-- ---------------------------------------------------------------------------
-- What a document says
-- ---------------------------------------------------------------------------

/-- What is written last under a name. -/
def lastUnder (name : String) (written : List (String × α)) : Option α :=
  ((written.filter fun field => field.1 == name).getLast?).map Prod.snd

/-- A field that may be left out, in favour of a default. -/
inductive ReadOr (initial : α) (Reads : Source → α → Prop) : Option Source → α → Prop
  | absent : ReadOr initial Reads none initial
  | given (h : Reads source a) : ReadOr initial Reads (some source) a

/-- A field that may be left out or written as `null`. -/
inductive ReadOptional (Reads : Source → α → Prop) : Option Source → Option α → Prop
  | absent : ReadOptional Reads none none
  | null : ReadOptional Reads (some .null) none
  | given (hne : source ≠ .null) (h : Reads source a) : ReadOptional Reads (some source) (some a)

def TreesReadFrom (source : Source) (trees : List Json) : Prop :=
  ∃ items, source.items? = some items ∧
    List.Forall₂ (fun item tree => item.toJson? = some tree) items trees

/-- A rule is referred to by its name, or by an object with its name and its arguments. -/
inductive RuleReference.ReadFrom : Source → RuleReference → Prop
  | name (id : String) : ReadFrom (.string (some id)) ⟨id, []⟩
  | object (r : RuleReference) (hfields : source.fields? = some named)
      (hid : Source.slot? named "rule" = some (some (.string (some r.id))))
      (hargs : Source.slot? named "args" = some slot) (h : ReadOr [] TreesReadFrom slot r.args) :
      ReadFrom source r

/-- The five fields of a property, each as it is written. -/
def PropertyDocument.ReadFrom (p : PropertyDocument) (source : Source) : Prop :=
  ∃ type required values rule default,
    source.slots? shape = some [type, required, values, rule, default] ∧
    ReadOptional (fun written t => written.variant? = some (PropertyType.name t)) type p.type ∧
    ReadOr false (fun written b => written.bool? = some b) required p.required ∧
    ReadOptional TreesReadFrom values p.values ∧
    ReadOptional RuleReference.ReadFrom rule p.rule ∧
    ReadOptional (fun written tree => written.toJson? = some tree) default p.default

/-- Names in the order in which they first come, each as it is declared last. -/
def PropertiesReadFrom (properties : OrderedMap PropertyDocument) : Option Source → Prop
  | none => properties.entries = []
  | some source => ∃ written, source.fields? = some written ∧
      properties.keys = (written.map Prod.fst).eraseDups ∧
      ∀ entry ∈ properties.entries, ∃ value ∈ lastUnder entry.1 written, entry.2.ReadFrom value

/-- Only a flag that is written can allow other keys. -/
def SchemaOptions.ReadFrom (options : SchemaOptions) : Option Source → Prop
  | none => options.explicitOnly = true
  | some source =>
    (source.slots? shape = some [none] ∧ options.explicitOnly = true) ∨
      ∃ flag, source.slots? shape = some [some flag] ∧ flag.bool? = some options.explicitOnly

def VirtualsReadFrom (virtuals : List String) : Option Source → Prop
  | none => virtuals = []
  | some source => ∃ items, source.items? = some items ∧
      List.Forall₂ (fun item name => item.string? = some name) items virtuals

/-- What is decoded is what is written, section by section. -/
def SchemaDocument.ReadFrom (d : SchemaDocument) (source : Source) : Prop :=
  ∃ properties options virtuals, source.slots? shape = some [properties, options, virtuals] ∧
    PropertiesReadFrom d.properties properties ∧ d.options.ReadFrom options ∧
    VirtualsReadFrom d.virtuals virtuals

theorem readOr_of_orDefault {Reads : Source → α → Prop} {read : Source → Option α}
    {slot : Option Source} (hread : ∀ source a, read source = some a → Reads source a)
    (h : orDefault initial read slot = some a) : ReadOr initial Reads slot a := by
  cases slot with
  | none =>
    cases h
    exact .absent
  | some source => exact .given (hread source a h)

theorem readOptional_of_orDefault {Reads : Source → α → Prop} {read : Source → Option α}
    {slot : Option Source} (hread : ∀ source a, read source = some a → Reads source a)
    (h : orDefault none (Source.optional read) slot = some a) : ReadOptional Reads slot a := by
  cases slot with
  | none =>
    cases h
    exact .absent
  | some source =>
    by_cases hnull : source = .null
    · subst hnull
      cases h
      exact .null
    · rw [orDefault, Source.optional_of_ne_null hnull] at h
      obtain ⟨b, hb, rfl⟩ := Option.map_eq_some_iff.mp h
      exact .given hnull (hread source b hb)

theorem PropertyType.variant?_of_ofSource? {source : Source} {t : PropertyType}
    (h : PropertyType.ofSource? source = some t) : source.variant? = some t.name := by
  obtain ⟨name, hname, ht⟩ := Option.bind_eq_some_iff.mp h
  have hequal := List.find?_some (p := fun t : PropertyType => t.name == name) ht
  rw [hname, eq_of_beq hequal]

theorem treesReadFrom {source : Source} {trees : List Json}
    (h : source.items?.bind Source.itemsToJson? = some trees) : TreesReadFrom source trees := by
  obtain ⟨items, hitems, htrees⟩ := Option.bind_eq_some_iff.mp h
  rw [Source.itemsToJson?_eq_mapM] at htrees
  exact ⟨items, hitems, mapM_eq_some_iff.mp htrees⟩

theorem Json.Source.string?_eq_some_iff {source : Source} :
    source.string? = some s ↔ source = .string (some s) := by
  cases source <;> simp [Source.string?]

theorem RuleReference.readFrom {source : Source} {r : RuleReference}
    (h : RuleReference.ofSource? source = some r) : RuleReference.ReadFrom source r := by
  unfold RuleReference.ofSource? at h
  split at h
  case h_1 =>
    obtain ⟨id, rfl, rfl⟩ := Option.map_eq_some_iff.mp h
    exact .name id
  case h_2 =>
    simp only [Option.bind_eq_bind, Option.bind_eq_some_iff, Option.some.injEq] at h
    obtain ⟨_, -, named, hnamed, _, hslot, id, ⟨rule, rfl, hid⟩, _, hargs, args, h, rfl⟩ := h
    rw [Source.string?_eq_some_iff] at hid
    exact .object ⟨id, args⟩ hnamed (hid ▸ hslot) hargs
      (readOr_of_orDefault (fun _ _ => treesReadFrom) h)
  case h_3 => cases h

theorem PropertyDocument.readFrom {source : Source} {p : PropertyDocument}
    (h : PropertyDocument.ofSource? source = some p) : p.ReadFrom source := by
  obtain ⟨slots, hslots, h⟩ := Option.bind_eq_some_iff.mp h
  split at h
  · simp only [Option.bind_eq_bind, Option.bind_eq_some_iff, Option.some.injEq] at h
    obtain ⟨_, htype, _, hrequired, _, hvalues, _, hrule, _, hdefault, rfl⟩ := h
    exact ⟨_, _, _, _, _, hslots,
      readOptional_of_orDefault (fun _ _ => PropertyType.variant?_of_ofSource?) htype,
      readOr_of_orDefault (fun _ _ => id) hrequired,
      readOptional_of_orDefault (fun _ _ => treesReadFrom) hvalues,
      readOptional_of_orDefault (fun _ _ => RuleReference.readFrom) hrule,
      readOptional_of_orDefault (fun _ _ => id) hdefault⟩
  · cases h

theorem propertiesReadFrom {properties : OrderedMap PropertyDocument}
    {source : Option Source}
    (h : orDefault ∅ SchemaDocument.propertiesOfSource? source = some properties) :
    PropertiesReadFrom properties source := by
  cases source with
  | none =>
    cases h
    rfl
  | some source =>
    simp only [orDefault, SchemaDocument.propertiesOfSource?, Option.bind_eq_bind,
      Option.bind_eq_some_iff, Option.some.injEq] at h
    obtain ⟨written, hwritten, entries, hentries, rfl⟩ := h
    have hread := mapM_values_eq_some_iff.mp hentries
    refine ⟨written, hwritten, ?_, fun entry he => ?_⟩
    · rw [hread.keys_eq]
      exact Entries.keys_collapse entries
    · have hlookup := (Entries.lookup_eq_some_iff_mem (Entries.nodup_collapse entries)).mpr he
      rw [hread.collapse.lookup_eq_bind, Entries.lookup_collapse] at hlookup
      obtain ⟨value, hvalue, hp⟩ := Option.bind_eq_some_iff.mp hlookup
      exact ⟨value, hvalue, PropertyDocument.readFrom hp⟩

theorem SchemaOptions.readFrom {options : SchemaOptions} {source : Option Source}
    (h : orDefault .initial SchemaOptions.ofSource? source = some options) :
    options.ReadFrom source := by
  cases source with
  | none =>
    cases h
    rfl
  | some source =>
    obtain ⟨slots, hslots, h⟩ := Option.bind_eq_some_iff.mp h
    split at h
    · rename_i flag
      obtain ⟨b, hb, heq⟩ := Option.bind_eq_some_iff.mp h
      cases heq
      cases flag with
      | none =>
        cases hb
        exact .inl ⟨hslots, rfl⟩
      | some flag => exact .inr ⟨flag, hslots, hb⟩
    · cases h

theorem virtualsReadFrom {virtuals : List String} {source : Option Source}
    (h : orDefault [] (fun s => do (← s.items?).mapM Source.string?) source = some virtuals) :
    VirtualsReadFrom virtuals source := by
  cases source with
  | none =>
    cases h
    rfl
  | some source =>
    obtain ⟨items, hitems, hread⟩ := Option.bind_eq_some_iff.mp h
    exact ⟨items, hitems, mapM_eq_some_iff.mp hread⟩

theorem SchemaDocument.readFrom {d : SchemaDocument} {source : Source}
    (h : SchemaDocument.ofSource? source = some d) : d.ReadFrom source := by
  obtain ⟨slots, hslots, h⟩ := Option.bind_eq_some_iff.mp h
  split at h
  · simp only [Option.bind_eq_bind, Option.bind_eq_some_iff, Option.some.injEq] at h
    obtain ⟨_, hproperties, _, hoptions, _, hvirtuals, rfl⟩ := h
    exact ⟨_, _, _, hslots, propertiesReadFrom hproperties,
      SchemaOptions.readFrom hoptions, virtualsReadFrom hvirtuals⟩
  · cases h

-- ---------------------------------------------------------------------------
-- What a schema declares
-- ---------------------------------------------------------------------------

/-- The rule, if there is one, is registered and takes its arguments. -/
def PropertyDocument.Resolves (p : PropertyDocument) : Prop :=
  ∀ r ∈ p.rule, ∃ check, Library.resolve r.id r.args = .ok check

/-- The definition that a property document declares. -/
structure PropertyDocument.Declares (p : PropertyDocument) (definition : Definition) : Prop where
  type : definition.type = p.type
  required : definition.required = p.required
  values : definition.values = p.values.map fun vs => vs.map Value.ofJson
  default : definition.default = p.default.map Value.ofJson
  /-- The rule keeps the name and the arguments that it was resolved from. -/
  rule : (p.rule = none ∧ definition.rule = none) ∨
    ∃ r check, p.rule = some r ∧ Library.resolve r.id r.args = .ok check ∧
      definition.rule = some (.named r.id r.args check)

/-- The error of the first property whose rule does not resolve. -/
def SchemaDocument.FirstDefect (d : SchemaDocument) (e : SchemaError) : Prop :=
  ∃ before name p after r, d.properties.entries = before ++ (name, p) :: after ∧
    (∀ entry ∈ before, entry.2.Resolves) ∧
    p.rule = some r ∧ Library.resolve r.id r.args = .error e

/-- The schema of a document: the same properties in the same order, its options, and each
virtual name where it is first listed. -/
structure SchemaDocument.Declares (d : SchemaDocument) (s : Schema) : Prop where
  properties : Entries.Related PropertyDocument.Declares d.properties.entries s.properties.entries
  options : s.options = d.options
  virtuals : s.virtuals.keys = d.virtuals.eraseDups

-- ---------------------------------------------------------------------------
-- One property
-- ---------------------------------------------------------------------------

theorem PropertyDocument.resolve_of_resolves {p : PropertyDocument} (h : p.Resolves) :
    ∃ definition, p.resolve = .ok definition ∧ p.Declares definition := by
  cases hrule : p.rule with
  | none =>
    refine ⟨⟨p.type, p.required, p.values.map fun vs => vs.map Value.ofJson, none,
      p.default.map Value.ofJson⟩, ?_, rfl, rfl, rfl, rfl, .inl ⟨hrule, rfl⟩⟩
    rw [PropertyDocument.resolve, hrule]
    rfl
  | some r =>
    obtain ⟨check, hcheck⟩ := h r hrule
    refine ⟨⟨p.type, p.required, p.values.map fun vs => vs.map Value.ofJson,
      some (.named r.id r.args check), p.default.map Value.ofJson⟩, ?_, rfl, rfl, rfl, rfl,
      .inr ⟨r, check, hrule, hcheck, rfl⟩⟩
    rw [PropertyDocument.resolve, hrule, Option.mapM_some, RuleReference.resolve, Rule.ofName,
      hcheck]
    rfl

theorem PropertyDocument.resolve_of_error {p : PropertyDocument} (hrule : p.rule = some r)
    (h : Library.resolve r.id r.args = .error e) : p.resolve = .error e := by
  have hr : r.resolve = .error e := by
    rw [RuleReference.resolve, Rule.ofName, h]
    rfl
  rw [PropertyDocument.resolve, hrule, Option.mapM_some, hr]
  rfl

theorem PropertyDocument.exists_error {p : PropertyDocument} (h : ¬ p.Resolves) :
    ∃ r e, p.rule = some r ∧ Library.resolve r.id r.args = .error e := by
  simp only [PropertyDocument.Resolves, Classical.not_forall] at h
  obtain ⟨r, hr, h⟩ := h
  cases hresolve : Library.resolve r.id r.args with
  | error e => exact ⟨r, e, hr, hresolve⟩
  | ok check => exact absurd ⟨check, hresolve⟩ h

-- ---------------------------------------------------------------------------
-- One property after the other
-- ---------------------------------------------------------------------------

/-- Resolve the next property of a document and declare it. -/
def Schema.declareNext (s : Schema) (entry : String × PropertyDocument) :
    Except SchemaError Schema := return s.declare entry.1 (← entry.2.resolve)

theorem Schema.foldlM_declareNext_of_resolves {entries : List (String × PropertyDocument)}
    (h : ∀ entry ∈ entries, entry.2.Resolves) (s : Schema) :
    ∃ declared, Entries.Related PropertyDocument.Declares entries declared ∧
      entries.foldlM Schema.declareNext s =
        .ok (declared.foldl (fun s entry => s.declare entry.1 entry.2) s) := by
  induction entries generalizing s with
  | nil => exact ⟨[], .nil, rfl⟩
  | cons entry rest ih =>
    obtain ⟨hentry, hrest⟩ := List.forall_mem_cons.mp h
    obtain ⟨definition, hresolve, hdeclares⟩ := PropertyDocument.resolve_of_resolves hentry
    obtain ⟨declared, hrelated, hfold⟩ := ih hrest (s.declare entry.1 definition)
    refine ⟨(entry.1, definition) :: declared, .cons ⟨rfl, hdeclares⟩ hrelated, ?_⟩
    have hnext : s.declareNext entry = .ok (s.declare entry.1 definition) := by
      rw [Schema.declareNext, hresolve]
      rfl
    rw [List.foldlM_cons, hnext, List.foldl_cons, ← hfold]
    rfl

theorem Schema.foldlM_declareNext_of_error {before after : List (String × PropertyDocument)}
    (hbefore : ∀ entry ∈ before, entry.2.Resolves) (hp : p.resolve = .error e) (s : Schema) :
    (before ++ (name, p) :: after).foldlM Schema.declareNext s = .error e := by
  obtain ⟨declared, -, hfold⟩ := Schema.foldlM_declareNext_of_resolves hbefore s
  have hnext : ∀ s : Schema, s.declareNext (name, p) = .error e := by
    intro s
    rw [Schema.declareNext, hp]
    rfl
  rw [List.foldlM_append, hfold]
  exact congrArg (· >>= fun s => after.foldlM Schema.declareNext s) (hnext _)

theorem Schema.foldl_declare (declared : List (String × Definition)) (s : Schema) :
    let t := declared.foldl (fun s entry => s.declare entry.1 entry.2) s
    t.properties.entries =
        declared.foldl (fun acc entry => Entries.put entry.1 entry.2 acc) s.properties.entries ∧
      t.options = s.options ∧ t.virtuals = s.virtuals := by
  induction declared generalizing s with
  | nil => exact ⟨rfl, rfl, rfl⟩
  | cons entry rest ih => exact ih (s.declare entry.1 entry.2)

theorem Schema.foldl_declareVirtual (names : List String) (s : Schema) :
    let t := names.foldl Schema.declareVirtual s
    t.virtuals.entries = (names.map fun name => (name, ())).foldl
        (fun acc entry => Entries.put entry.1 entry.2 acc) s.virtuals.entries ∧
      t.options = s.options ∧ t.properties = s.properties := by
  induction names generalizing s with
  | nil => exact ⟨rfl, rfl, rfl⟩
  | cons name rest ih => exact ih (s.declareVirtual name)

-- ---------------------------------------------------------------------------
-- The document
-- ---------------------------------------------------------------------------

theorem SchemaDocument.resolve_eq (d : SchemaDocument) :
    d.resolve = (d.properties.entries.foldlM Schema.declareNext
      (Schema.empty.withOptions d.options)).map (d.virtuals.foldl Schema.declareVirtual) := rfl

theorem SchemaDocument.resolve_of_resolves {d : SchemaDocument}
    (h : ∀ entry ∈ d.properties.entries, entry.2.Resolves) :
    ∃ s, d.resolve = .ok s ∧ d.Declares s := by
  obtain ⟨declared, hrelated, hfold⟩ :=
    Schema.foldlM_declareNext_of_resolves h (Schema.empty.withOptions d.options)
  have hnodup : (declared.map Prod.fst).Nodup := hrelated.keys_eq ▸ d.properties.nodup
  have hdeclare := Schema.foldl_declare declared (Schema.empty.withOptions d.options)
  generalize declared.foldl _ _ = built at hfold hdeclare
  obtain ⟨hproperties, hoptions, hnone⟩ := hdeclare
  obtain ⟨hvirtuals, hoptions', hproperties'⟩ := Schema.foldl_declareVirtual d.virtuals built
  refine ⟨_, by rw [SchemaDocument.resolve_eq, hfold]; rfl, ?_, ?_, ?_⟩
  · rw [hproperties', hproperties]
    change Entries.Related _ _ (Entries.collapse declared)
    rwa [Entries.collapse_of_nodup hnodup]
  · rw [hoptions', hoptions]
    rfl
  · rw [OrderedMap.keys, hvirtuals, hnone]
    exact (Entries.keys_collapse _).trans (by rw [List.map_map]; simp [Function.comp_def])

theorem exists_first {p : α → Prop} {xs : List α} (h : ∃ x ∈ xs, ¬ p x) :
    ∃ before x after, xs = before ++ x :: after ∧ (∀ y ∈ before, p y) ∧ ¬ p x := by
  classical
  obtain ⟨x, hx⟩ := Option.isSome_iff_exists.mp
    (List.find?_isSome (p := fun x => !decide (p x)).mpr (by simpa using h))
  obtain ⟨hp, before, after, heq, hbefore⟩ := List.find?_eq_some_iff_append.mp hx
  exact ⟨before, x, after, heq, by simpa using hbefore, by simpa using hp⟩

theorem SchemaDocument.exists_firstDefect {d : SchemaDocument}
    (h : ∃ entry ∈ d.properties.entries, ¬ entry.2.Resolves) : ∃ e, d.FirstDefect e := by
  obtain ⟨before, ⟨name, p⟩, after, heq, hbefore, hp⟩ := exists_first h
  obtain ⟨r, e, hrule, hresolve⟩ := PropertyDocument.exists_error hp
  exact ⟨e, before, name, p, after, r, heq, hbefore, hrule, hresolve⟩

theorem SchemaDocument.resolve_of_firstDefect {d : SchemaDocument} (h : d.FirstDefect e) :
    d.resolve = .error e := by
  obtain ⟨before, name, p, after, r, heq, hbefore, hrule, hresolve⟩ := h
  rw [SchemaDocument.resolve_eq, heq, Schema.foldlM_declareNext_of_error hbefore
    (PropertyDocument.resolve_of_error hrule hresolve)]
  rfl

-- ---------------------------------------------------------------------------
-- Loading
-- ---------------------------------------------------------------------------

/-- What comes of loading a source, or of a text that has none. -/
structure Schema.LoadedFrom (source : Option Source) (loaded : Except SchemaError Schema) :
    Prop where
  /-- Whatever rules it names, a document that cannot be decoded is malformed. -/
  malformed : source.bind SchemaDocument.ofSource? = none → loaded = .error .malformed
  reading : ∀ s ∈ source, ∀ d, SchemaDocument.ofSource? s = some d → d.ReadFrom s
  defect : ∀ d, source.bind SchemaDocument.ofSource? = some d →
    (∃ entry ∈ d.properties.entries, ¬ entry.2.Resolves) →
      ∃ e, d.FirstDefect e ∧ loaded = .error e
  whole : ∀ d, source.bind SchemaDocument.ofSource? = some d →
    (∀ entry ∈ d.properties.entries, entry.2.Resolves) →
      ∃ schema, loaded = .ok schema ∧ d.Declares schema

theorem Schema.loadedFrom (source : Option Source) (loaded : Except SchemaError Schema)
    (hloaded : loaded = (source.bind SchemaDocument.ofSource?).elim (.error .malformed)
      SchemaDocument.resolve) : LoadedFrom source loaded := by
  refine ⟨fun h => ?_, fun s _ d hd => SchemaDocument.readFrom hd, fun d hd h => ?_,
    fun d hd h => ?_⟩
  · rw [hloaded, h]
    rfl
  · obtain ⟨e, he⟩ := SchemaDocument.exists_firstDefect h
    refine ⟨e, he, ?_⟩
    rw [hloaded, hd]
    exact SchemaDocument.resolve_of_firstDefect he
  · obtain ⟨schema, hresolve, hdeclares⟩ := SchemaDocument.resolve_of_resolves h
    refine ⟨schema, ?_, hdeclares⟩
    rw [hloaded, hd]
    exact hresolve

theorem Schema.ofSource_eq (source : Source) :
    Schema.ofSource source = (SchemaDocument.ofSource? source).elim (.error .malformed)
      SchemaDocument.resolve := by
  rw [Schema.ofSource]
  cases SchemaDocument.ofSource? source <;> rfl

/-- The source of a text that nests no deeper than documents may. -/
def Json.Source.ofDocument? (text : String) : Option Source :=
  (Source.ofText? text).filter fun source => source.depth ≤ Source.maxDepth

theorem Schema.ofText_eq (text : String) :
    Schema.ofText text = ((Source.ofDocument? text).bind SchemaDocument.ofSource?).elim
      (.error .malformed) SchemaDocument.resolve := by
  rw [Schema.ofText, Source.ofDocument?]
  cases Source.ofText? text with
  | none => rfl
  | some source =>
    rw [Option.filter_some]
    by_cases hdepth : source.depth ≤ Source.maxDepth
    · simp only [hdepth, decide_true, if_true, Option.bind_some]
      exact Schema.ofSource_eq source
    · simp only [hdepth, decide_false, Bool.false_eq_true, if_false]
      rfl

/-- Of a tree, a text or bytes: malformed, or the first defect in the order of the properties,
or the whole schema. -/
theorem Schema.load_all_or_nothing :
    (∀ j, LoadedFrom (some (.ofJson j)) (Schema.ofJson j)) ∧
    (∀ text, LoadedFrom (Source.ofDocument? text) (Schema.ofText text)) ∧
    ∀ bytes, LoadedFrom ((String.fromUTF8? bytes).bind Source.ofDocument?)
      (Schema.ofBytes bytes) := by
  refine ⟨fun j => ?_, fun text => ?_, fun bytes => ?_⟩
  · exact loadedFrom _ _ (ofSource_eq _)
  · exact loadedFrom _ _ (ofText_eq text)
  · refine loadedFrom _ _ ?_
    rw [Schema.ofBytes]
    cases String.fromUTF8? bytes with
    | none => rfl
    | some text => exact ofText_eq text

/-- The first rule is declared anew under its name, so the second is the first defect. -/
def redeclaring : String :=
  "\x7b\"properties\":\x7b\"id\":\x7b\"validate\":\"isShiny\"\x7d,"
    ++ "\"ip\":\x7b\"validate\":\x7b\"rule\":\"isIP\",\"args\":[\"five\"]\x7d\x7d,"
    ++ "\"id\":\x7b\"validate\":\"isInt\"\x7d,\"url\":\x7b\"validate\":\"isUrl\"\x7d\x7d\x7d"

def redeclaringSource : Source :=
  .ofNamed [("properties", .ofNamed [
    ("id", .ofNamed [("validate", .string (some "isShiny"))]),
    ("ip", .ofNamed [("validate", .ofNamed [("rule", .string (some "isIP")),
      ("args", .array [.string (some "five")])])]),
    ("id", .ofNamed [("validate", .string (some "isInt"))]),
    ("url", .ofNamed [("validate", .string (some "isUrl"))])])]

def redeclared : SchemaDocument :=
  let rule (id : String) (args : List Json) : PropertyDocument :=
    ⟨none, false, none, some ⟨id, args⟩, none⟩
  ⟨.ofEntries [("id", rule "isInt" []), ("ip", rule "isIP" [.string "five"]),
    ("url", rule "isUrl" [])], .initial, []⟩

/-- A property with all five fields, each in its own form, and a virtual name listed twice. -/
def described : Json :=
  .object [
    ("properties", .object [("size", .object [
      ("type", .string "string"),
      ("required", .bool true),
      ("values", .array [.string "small", .object [("cut", .null)]]),
      ("validate", .object [("rule", .string "isIn"),
        ("args", .array [.array [.string "small", .string "large"]])]),
      ("default", .string "small")])]),
    ("options", .object [("explicitOnly", .bool false)]),
    ("virtuals", .array [.string "age", .string "age"])]

def describedDocument : SchemaDocument :=
  ⟨.ofEntries [("size", ⟨some .string, true,
      some [.string "small", .object [("cut", .null)]],
      some ⟨"isIn", [.array [.string "small", .string "large"]]⟩, some (.string "small")⟩)],
    ⟨false⟩, ["age", "age"]⟩

def describedSchema : Schema :=
  ⟨.ofEntries [("size", ⟨some .string, true,
      some [.string "small", .object [("cut", .null)]],
      some (.named "isIn" [.array [.string "small", .string "large"]] (.oneOf ["small", "large"])),
      some (.string "small")⟩)],
    ⟨false⟩, .ofEntries [("age", ())]⟩

theorem Schema.load_all_or_nothing_redeclaring :
    ((Source.ofDocument? redeclaring).bind SchemaDocument.ofSource? = some redeclared ∧
      (∃ entry ∈ redeclared.properties.entries, ¬ entry.2.Resolves) ∧
      redeclared.FirstDefect (.arguments "isIP" (.version [4, 6])) ∧
      Schema.ofText redeclaring = .error (.arguments "isIP" (.version [4, 6]))) ∧
    (describedDocument.ReadFrom (.ofJson described) ∧
      Schema.ofJson described = .ok describedSchema ∧
      describedDocument.Declares describedSchema) := by
  have hsource : Source.ofText? redeclaring = some redeclaringSource := by
    set_option maxRecDepth 2000 in rfl
  have hread : (Source.ofDocument? redeclaring).bind SchemaDocument.ofSource? =
      some redeclared := by
    rw [Source.ofDocument?, hsource, Option.filter_some_pos (by decide)]
    rfl
  have hload : Schema.ofText redeclaring = .error (.arguments "isIP" (.version [4, 6])) := by
    rw [Schema.ofText_eq, hread]
    rfl
  have hbad : ∃ entry ∈ redeclared.properties.entries, ¬ entry.2.Resolves := by
    refine ⟨_, List.mem_cons_of_mem _ List.mem_cons_self, fun h => ?_⟩
    obtain ⟨check, hcheck⟩ := h _ rfl
    cases hcheck
  obtain ⟨e, hdefect, he⟩ :=
    (Schema.load_all_or_nothing.2.1 redeclaring).defect redeclared hread hbad
  cases hload.symm.trans he
  refine ⟨⟨hread, hbad, hdefect, hload⟩, ?_⟩
  have hdecoded : SchemaDocument.ofSource? (.ofJson described) = some describedDocument := rfl
  have hresolves : ∀ entry ∈ describedDocument.properties.entries, entry.2.Resolves := by
    intro entry hentry
    obtain rfl := List.mem_singleton.mp hentry
    intro r hr
    obtain rfl := Option.some.inj hr
    exact ⟨.oneOf ["small", "large"], rfl⟩
  have hloaded := Schema.load_all_or_nothing.1 described
  obtain ⟨schema, hschema, hdeclares⟩ := hloaded.whole describedDocument hdecoded hresolves
  have hwhole : Schema.ofJson described = .ok describedSchema := rfl
  cases hwhole.symm.trans hschema
  exact ⟨hloaded.reading _ rfl _ hdecoded, hwhole, hdeclares⟩

end RecordSchema
