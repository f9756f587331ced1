import RecordSchema.Proofs.Rule.Fault
import RecordSchema.Proofs.Schema.Provenance
import RecordSchema.Validation

/-!
# Passes that may fault

A pass asks the rules of its schema about texts, and a pattern about texts that may be dates. Here
each question is put so that it may fault, and a fault ends the pass. When all rules were resolved
the pass comes to its end on all data, with the same outcome (`validate_never_faults`).
-/

namespace RecordSchema

open Fault

-- ---------------------------------------------------------------------------
-- Rules and types
-- ---------------------------------------------------------------------------

theorem Fault.allM_ok {p : α → Except Fault Bool} {q : α → Bool} (h : ∀ a, p a = .ok (q a))
    (as : List α) : as.allM p = .ok (as.all q) := by
  induction as with
  | nil => rfl
  | cons a rest ih =>
    rw [List.allM, h a, List.all_cons]
    cases q a with
    | false => rfl
    | true => exact ih

namespace Rule

def judgeText (check : Check) (value : Value) : Except Fault Bool :=
  match value.textForm with
  | some text => check.judge text
  | none => .ok false

/-- Elements are asked about up to the first that fails. -/
def judge (rule : Rule) (value : Value) (data : Record) : Except Fault Bool :=
  match rule with
  | .named _ _ check =>
    match value with
    | .array items => items.allM (judgeText check)
    | value => judgeText check value
  | .custom predicate args => .ok (predicate data args)

theorem judgeText_of_resolve {name : String} {args : List Json} {check : Check}
    (h : Library.resolve name args = .ok check) (value : Value) :
    judgeText check value = .ok (acceptsText check value) := by
  rw [judgeText, acceptsText]
  cases value.textForm with
  | none => rfl
  | some text => exact Library.judge_of_resolve h text

theorem Resolved.judge {rule : Rule} (h : rule.Resolved) (value : Value) (data : Record) :
    rule.judge value data = .ok (rule.evaluate value data) := by
  cases rule with
  | custom => rfl
  | named id args check =>
    cases value with
    | array items => exact allM_ok (judgeText_of_resolve h) items
    | _ => rw [Rule.judge, Rule.evaluate, judgeText_of_resolve h] <;> rintro _ ⟨⟩

end Rule

/-- Texts are compared with the pattern of dates. -/
def PropertyType.judge : PropertyType → Value → Except Fault Bool
  | .datetime, .string s => answer Expression.dateText s
  | type, value => .ok (type.admits value)

theorem PropertyType.judge_eq (type : PropertyType) (value : Value) :
    type.judge value = .ok (type.admits value) := by
  unfold PropertyType.judge
  split
  · rename_i s
    rw [answer_of_describes Expression.describes_date, String.ofList_toList]
    rfl
  · rfl

-- ---------------------------------------------------------------------------
-- Passes
-- ---------------------------------------------------------------------------

/-- What a declared part of a definition reports when the answer about it is no. -/
def Fault.report (declared : Option α) (ask : α → Except Fault Bool) (violation : α → Violation) :
    Except Fault (List Violation) :=
  match declared with
  | some a => (ask a).map fun passes => if passes then [] else [violation a]
  | none => .ok []

theorem Fault.report_ok {declared : Option α} {ask : α → Except Fault Bool} {passes : α → Bool}
    (h : ∀ a ∈ declared, ask a = .ok (passes a)) (violation : α → Violation) :
    report declared ask violation =
      .ok (declared.bind fun a => if passes a then none else some (violation a)).toList := by
  cases declared with
  | none => rfl
  | some a =>
    rw [report, h a rfl, Option.bind_some, Except.map]
    cases passes a <;> rfl

/-- What is wrong with the value of a declared property: its type, its range and its rule. -/
def Definition.judge (d : Definition) (name : String) (value : Value) (data : Record) :
    Except Fault (List Violation) :=
  if value.isBlank then .ok (if d.required then [.required name] else [])
  else do
    let ofType ← report d.type (·.judge value) (.wrongType name · value)
    let ofRange ← report d.values (fun allowed => .ok (isAllowed allowed value)) (.outOfRange name)
    let ofRule ← report d.rule (·.judge value data) (.wrongValue name value ·.name)
    return ofType ++ ofRange ++ ofRule

theorem Definition.judge_eq {d : Definition} (h : ∀ rule ∈ d.rule, rule.Resolved) (name : String)
    (value : Value) (data : Record) :
    d.judge name value data = .ok (d.violations name value data) := by
  rw [Definition.judge, Definition.violations]
  split
  · rfl
  · rw [report_ok (fun type _ => type.judge_eq value), report_ok (fun _ _ => rfl),
      report_ok (fun rule hrule => (h rule hrule).judge value data)]
    rfl

namespace Schema

def judgeEntry (s : Schema) (kind : String) (data : Record) (entry : String × Value) :
    Except Fault (List Violation) :=
  match s.get? entry.1 with
  | some d => d.judge entry.1 entry.2 data
  | none => .ok (if s.options.explicitOnly then [.notAllowed entry.1 kind] else [])

/-- A pass that a fault ends. -/
def judge (s : Schema) (kind : String) (data : Record) : Except Fault Outcome := do
  let value := s.strip data
  let found ← value.entries.mapM (s.judgeEntry kind value)
  let missing := s.properties.entries.filterMap (s.missingViolation? value)
  return ⟨value, (Report.mk kind (found.flatten ++ missing)).nonempty?⟩

theorem RulesResolved.judgeEntry {s : Schema} (hs : s.RulesResolved) (kind : String)
    (data : Record) (entry : String × Value) :
    s.judgeEntry kind data entry = .ok (s.entryViolations kind data entry) := by
  rw [Schema.judgeEntry, entryViolations]
  cases hd : s.get? entry.1 with
  | none => rfl
  | some d => exact Definition.judge_eq (hs entry.1 d hd) entry.1 entry.2 data

theorem RulesResolved.judge {s : Schema} (hs : s.RulesResolved) (kind : String) (data : Record) :
    s.judge kind data = .ok (s.validate kind data) := by
  have hentries : s.judgeEntry kind (s.strip data) =
      fun entry => pure (s.entryViolations kind (s.strip data) entry) :=
    funext (hs.judgeEntry kind (s.strip data))
  rw [Schema.judge, hentries]
  dsimp only
  rw [List.mapM_pure, pure_bind, validate, collect, List.flatMap_def]
  rfl

/-- No check that was resolved faults, whatever the text: where the pattern of UUIDs matches there
are 36 bytes, with a digit at the two places that are read; an allowed version added to a digit is a
byte; and a split leaves a last part. So a pass over such checks comes to its end on all data. -/
theorem validate_never_faults :
    (∀ name args check, Library.resolve name args = .ok check →
      ∀ text, check.judge text = .ok (check.accepts text)) ∧
    (∀ text, answer Expression.uuidText text = .ok true →
      (Notation.bytes text).length = 36 ∧
      ∀ i ∈ [Notation.versionIndex, Notation.variantIndex], ∃ digit, Text.isHexDigit digit = true ∧
        read (Notation.bytes text) i = .ok (UInt8.ofNat digit.toNat)) ∧
    (∀ args v, Library.resolve "isUUID" args = .ok (.uuid (some v)) →
      addBytes '0'.toNat v = .ok (UInt8.ofNat ('0'.toNat + v))) ∧
    (∀ name, ∃ label ∈ Text.splitOn '.' name, last (Text.splitOn '.' name) = .ok label) ∧
    ∀ s : Schema, s.RulesResolved →
      ∀ kind data, s.judge kind data = .ok (s.validate kind data) := by
  refine ⟨fun name args check => Library.judge_of_resolve, fun text h => ?_, fun args v h => ?_,
    fun name => ?_, fun s hs kind data => hs.judge kind data⟩
  · have htext : Notation.IsUuidText text.toList := Notation.isUuidText_of_answer h
    refine ⟨htext.length_bytes, fun i hi => ?_⟩
    obtain ⟨digit, hget, hdigit⟩ := htext.digit i hi
    exact ⟨digit, hdigit, htext.read_bytes hget⟩
  · exact addBytes_of_lt (Library.version_fits h)
  · exact ⟨_, List.getLast_mem _, Host.last_splitOn '.' name⟩

/-- A rule for UUIDs of version 4, which a ticket has. -/
def versionRule : Rule := .named "isUUID" [.number (.integer 4 (by decide))] (.uuid (some 4))

def tickets : Schema := empty.declare "ticket" ⟨none, false, none, some versionRule, none⟩

def ticket : String := "3b241101-e2bb-4255-8caf-4136c566a962"

theorem tickets_rulesResolved : tickets.RulesResolved :=
  Reached.empty.rulesResolved.declare (by rintro rule ⟨⟩; rfl) "ticket"

theorem validate_never_faults_tickets :
    Library.resolve "isUUID" versionRule.args = .ok (.uuid (some 4)) ∧
    answer Expression.uuidText ticket = .ok true ∧
    tickets.RulesResolved ∧
    (∀ text, (Check.uuid (some 4)).judge text = .ok ((Check.uuid (some 4)).accepts text)) ∧
    (∃ digit, Text.isHexDigit digit = true ∧
      read (Notation.bytes ticket) 19 = .ok (UInt8.ofNat digit.toNat)) ∧
    addBytes '0'.toNat 4 = .ok 0x34 ∧
    ∀ kind data, tickets.judge kind data = .ok (tickets.validate kind data) := by
  obtain ⟨hchecks, hplaces, hversions, -, hpasses⟩ := validate_never_faults
  have hresolve : Library.resolve "isUUID" versionRule.args = .ok (.uuid (some 4)) := rfl
  have hanswer : answer Expression.uuidText ticket = .ok true := by
    rw [answer_of_describes Expression.describes_uuid]
    rfl
  have hplace := (hplaces ticket hanswer).2 Notation.variantIndex (by decide)
  exact ⟨hresolve, hanswer, tickets_rulesResolved, hchecks "isUUID" _ _ hresolve, hplace,
    hversions _ 4 hresolve, hpasses tickets tickets_rulesResolved⟩

end Schema

end RecordSchema
