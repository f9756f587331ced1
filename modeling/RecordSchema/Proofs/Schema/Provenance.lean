import RecordSchema.Proofs.Document.Resolution
import RecordSchema.Proofs.Rule.Registry
import RecordSchema.Proofs.Schema.History

/-!
# Where the rules of a schema come from

A rule by name keeps the check that its name and arguments resolved to when it was built. In a
schema that was loaded or grown from such rules nothing has come between the two: to ask a rule
about a value is to resolve its name and arguments again (`registry_coherent`).
-/

namespace RecordSchema

open Json (Source)

-- ---------------------------------------------------------------------------
-- One name
-- ---------------------------------------------------------------------------

/-- The list of names, the answers of the registry and the names that they carry agree. -/
structure Library.Coherent (name : String) (args : List Json) : Prop where
  listed : contains name = true ↔ name ∈ names
  known : name ∈ names ↔ resolve name args ≠ .error (.unknownRule name)
  unknown : ∀ other, resolve name args = .error (.unknownRule other) → other = name
  blamed : ∀ rule cause, resolve name args = .error (.arguments rule cause) → rule = name
  named : ∀ check, resolve name args = .ok check → check.name = name

theorem Library.coherent (name : String) (args : List Json) : Coherent name args where
  listed := contains_iff_mem_names
  known := by
    constructor
    · intro hname herror
      obtain ⟨hnot, -⟩ | ⟨-, cause, hcause⟩ := resolve_error_cases herror
      · exact hnot hname
      · cases hcause
    · intro hknown
      by_contra hnot
      exact hknown (resolve_of_not_mem hnot args)
  unknown := by
    intro other h
    obtain ⟨-, he⟩ | ⟨-, cause, he⟩ := resolve_error_cases h <;> cases he
    rfl
  blamed := by
    intro rule cause h
    obtain ⟨-, he⟩ | ⟨-, cause, he⟩ := resolve_error_cases h <;> cases he
    rfl
  named := fun _ => name_of_resolve

-- ---------------------------------------------------------------------------
-- One rule
-- ---------------------------------------------------------------------------

/-- What a library check sees of a value: the elements of an array, or the value itself. -/
def Value.elements : Value → List Value
  | .array items => items
  | value => [value]

namespace Rule

/-- The rules that can be had without naming a check: by name, with arguments or none, and
predicates. -/
inductive Built : Rule → Prop
  | named (id : String) (args : List Json) (h : ofName id args = .ok rule) : Built rule
  | custom (predicate : Record → List Json → Bool) (args : List Json) :
      Built (.custom predicate args)

/-- The check is the one that the name and the arguments resolve to. -/
def Resolved : Rule → Prop
  | .named id args check => Library.resolve id args = .ok check
  | .custom _ _ => True

theorem Built.resolved {rule : Rule} (h : rule.Built) : rule.Resolved := by
  cases h with
  | custom => trivial
  | named id args h =>
    cases hresolve : Library.resolve id args with
    | error e =>
      rw [ofName, hresolve] at h
      cases h
    | ok check =>
      rw [ofName, hresolve] at h
      cases h
      exact hresolve

theorem acceptsText_eq_true_iff {check : Check} {value : Value} :
    acceptsText check value = true ↔
      ∃ text, value.textForm = some text ∧ check.accepts text = true := by
  rw [acceptsText, Option.any_eq_true]

theorem evaluate_named_iff {id : String} {args : List Json} {check : Check} {value : Value}
    {data : Record} :
    (named id args check).evaluate value data = true ↔
      ∀ element ∈ value.elements, ∃ text,
        element.textForm = some text ∧ check.accepts text = true := by
  simp only [← acceptsText_eq_true_iff]
  cases value with
  | array items => exact List.all_eq_true
  | _ => simp only [evaluate, Value.elements, List.mem_singleton, forall_eq]

end Rule

theorem Library.accepts_eq_ok_true_iff (h : resolve name args = .ok check) (text : String) :
    accepts name text args = .ok true ↔ check.accepts text = true := by
  rw [accepts, h, Except.map, Except.ok.injEq]

-- ---------------------------------------------------------------------------
-- Schemas
-- ---------------------------------------------------------------------------

namespace Schema

/-- The rule that an operation brings along. -/
def Operation.rule? : Operation → Option Rule
  | .declare _ definition => definition.rule
  | .setRule _ rule => some rule
  | _ => none

/-- Loaded from a document, or made by one operation after another. -/
inductive Reached : Schema → Prop
  | empty : Reached empty
  | ofJson (h : Schema.ofJson j = .ok s) : Reached s
  | ofText (h : Schema.ofText text = .ok s) : Reached s
  | ofBytes (h : Schema.ofBytes bytes = .ok s) : Reached s
  | ofFile (h : Schema.ofFile content = .ok s) : Reached s
  | step (h : Reached s) (op : Operation) (hrule : ∀ rule ∈ op.rule?, rule.Built)
      (hperform : op.perform s = .ok t) : Reached t

def RulesResolved (s : Schema) : Prop :=
  ∀ name d, s.get? name = some d → ∀ rule ∈ d.rule, rule.Resolved

theorem RulesResolved.declare {s : Schema} (hs : s.RulesResolved)
    (hd : ∀ rule ∈ d.rule, rule.Resolved) (name : String) : (s.declare name d).RulesResolved := by
  intro other e he
  by_cases heq : other = name
  · subst heq
    cases (s.properties.get?_insert_self other d).symm.trans he
    exact hd
  · exact hs other e ((s.properties.get?_insert_of_ne d heq).symm.trans he)

/-- An operation whose rule resolved leaves only such rules. -/
theorem RulesResolved.perform {s t : Schema} (hs : s.RulesResolved) {op : Operation}
    (hrule : ∀ rule ∈ op.rule?, rule.Resolved) (h : op.perform s = .ok t) : t.RulesResolved := by
  cases op with
  | declare name d =>
    cases h
    exact hs.declare hrule name
  | setRule name rule =>
    change s.setRule name rule = .ok t at h
    cases hd : s.get? name with
    | none =>
      rw [setRule, hd] at h
      cases h
    | some d =>
      cases (setRule_of_get? hd rule).symm.trans h
      exact hs.declare hrule name
  | declareVirtual | withExplicitOnly | withOptions =>
    cases h
    exact hs

theorem rulesResolved_of_declares {d : SchemaDocument} {s : Schema} (h : d.Declares s) :
    s.RulesResolved := by
  intro name definition hget rule hrule
  have hrelated := h.properties.lookup name
  rw [show s.properties.entries.lookup name = some definition from hget] at hrelated
  generalize d.properties.entries.lookup name = found at hrelated
  cases hrelated with
  | some hdeclares =>
    obtain ⟨-, hnone⟩ | ⟨r, check, -, hresolve, hsome⟩ := hdeclares.rule
    · rw [hnone] at hrule
      cases hrule
    · rw [hsome] at hrule
      cases hrule
      exact hresolve

theorem rulesResolved_of_ofSource {source : Source} (h : ofSource source = .ok s) :
    s.RulesResolved := by
  rw [ofSource_eq] at h
  cases hdocument : SchemaDocument.ofSource? source with
  | none =>
    rw [hdocument] at h
    cases h
  | some d =>
    rw [hdocument] at h
    by_cases hresolves : ∀ entry ∈ d.properties.entries, entry.2.Resolves
    · obtain ⟨loaded, hloaded, hdeclares⟩ := SchemaDocument.resolve_of_resolves hresolves
      cases hloaded.symm.trans h
      exact rulesResolved_of_declares hdeclares
    · obtain ⟨e, hdefect⟩ := SchemaDocument.exists_firstDefect (by simpa using hresolves)
      cases (SchemaDocument.resolve_of_firstDefect hdefect).symm.trans h

theorem rulesResolved_of_ofText (h : ofText text = .ok s) : s.RulesResolved := by
  unfold ofText at h
  split at h
  · split at h
    · exact rulesResolved_of_ofSource h
    · cases h
  · cases h

theorem rulesResolved_of_ofBytes (h : ofBytes bytes = .ok s) : s.RulesResolved := by
  unfold ofBytes at h
  split at h
  · exact rulesResolved_of_ofText h
  · cases h

theorem Reached.rulesResolved {s : Schema} (h : s.Reached) : s.RulesResolved := by
  induction h with
  | empty => exact fun name d hget => nomatch hget
  | ofJson h => exact rulesResolved_of_ofSource h
  | ofText h => exact rulesResolved_of_ofText h
  | ofBytes h => exact rulesResolved_of_ofBytes h
  | @ofFile content s h =>
    cases content with
    | none => cases h
    | some bytes => exact rulesResolved_of_ofBytes h
  | step _ op hrule hperform ih =>
    exact ih.perform (fun rule hmem => (hrule rule hmem).resolved) hperform

/-- The registry is coherent, and so is each rule by name in a schema: its check is of that name,
and the rule asks what its name and arguments resolve to. -/
theorem registry_coherent (s : Schema) (hs : s.Reached) :
    (∀ name args, Library.Coherent name args) ∧
    ∀ name d id args check, s.get? name = some d → d.rule = some (.named id args check) →
      check.name = id ∧
      Library.resolve id args = .ok check ∧
      ∀ value data, (Rule.named id args check).evaluate value data = true ↔
        ∀ element ∈ value.elements, ∃ text,
          element.textForm = some text ∧ Library.accepts id text args = .ok true := by
  refine ⟨Library.coherent, fun name d id args check hget hrule => ?_⟩
  have hresolve : Library.resolve id args = .ok check := hs.rulesResolved name d hget _ hrule
  refine ⟨Library.name_of_resolve hresolve, hresolve, fun value data => ?_⟩
  rw [Rule.evaluate_named_iff]
  simp only [Library.accepts_eq_ok_true_iff hresolve]

/-- A property with a rule, and one without. -/
def contactText : String :=
  "\x7b\"properties\":\x7b\"mail\":\x7b\"validate\":\x7b\"rule\":\"contains\","
    ++ "\"args\":[\"@\"]\x7d\x7d,\"age\":\x7b\x7d\x7d\x7d"

def contactSource : Source :=
  .ofNamed [("properties", .ofNamed [
    ("mail", .ofNamed [("validate", .ofNamed [("rule", .string (some "contains")),
      ("args", .array [.string (some "@")])])]),
    ("age", .ofNamed [])])]

def contact : Schema :=
  let plain : Definition := ⟨none, false, none, none, none⟩
  let mailRule : Rule := .named "contains" [.string "@"] (.containing "@")
  ⟨.ofEntries [("mail", { plain with rule := some mailRule }), ("age", plain)], .initial, ∅⟩

/-- One rule was loaded, and one is attached afterwards. -/
theorem registry_coherent_contact :
    let isInt : Rule := .named "isInt" [] .int
    let grown := contact.declare "age" ⟨none, false, none, some isInt, none⟩
    Schema.ofText contactText = .ok contact ∧
    Rule.ofName "isInt" [] = .ok isInt ∧
    contact.setRule "age" isInt = .ok grown ∧
    grown.Reached ∧
    Library.Coherent "isInt" [] ∧
    (∀ value data, isInt.evaluate value data = true ↔ ∀ element ∈ value.elements, ∃ text,
      element.textForm = some text ∧ Library.accepts "isInt" text [] = .ok true) ∧
    ∀ value data,
      (Rule.named "contains" [.string "@"] (.containing "@")).evaluate value data = true ↔
        ∀ element ∈ value.elements, ∃ text, element.textForm = some text ∧
          Library.accepts "contains" text [.string "@"] = .ok true := by
  intro isInt grown
  have hsource : Source.ofText? contactText = some contactSource := by
    set_option maxRecDepth 2000 in rfl
  have hload : Schema.ofText contactText = .ok contact := by
    rw [ofText_eq, Source.ofDocument?, hsource, Option.filter_some_pos (by decide)]
    rfl
  have hbuilt : Rule.ofName "isInt" [] = .ok isInt := rfl
  have hset : contact.setRule "age" isInt = .ok grown := rfl
  have hreached : grown.Reached := by
    refine .step (.ofText hload) (.setRule "age" isInt) ?_ hset
    rintro rule ⟨⟩
    exact .named "isInt" [] hbuilt
  obtain ⟨hregistry, hrules⟩ := registry_coherent grown hreached
  obtain ⟨-, -, hage⟩ := hrules "age" _ _ _ _ rfl rfl
  obtain ⟨-, -, hmail⟩ := hrules "mail" _ _ _ _ rfl rfl
  exact ⟨hload, hbuilt, hset, hreached, hregistry "isInt" [], hage, hmail⟩

end Schema

end RecordSchema
