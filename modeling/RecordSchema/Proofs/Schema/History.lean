import Mathlib.Data.List.Induction
import RecordSchema.Proofs.OrderedMap
import RecordSchema.Schema

/-!
# The history of a schema

Schemas grow by operations, one after another, and one operation can be refused.
`history_recorded` reads the schema off its history: names come in the order of their first
declarations, a property is what its last declaration and the rule attached last since then
make it, and a rule is refused exactly for a name that was never declared.
-/

namespace RecordSchema

namespace Schema

/-- One step in the making of a schema. -/
inductive Operation where
  | declare (name : String) (definition : Definition)
  | declareVirtual (name : String)
  | withExplicitOnly (explicitOnly : Bool)
  | withOptions (options : SchemaOptions)
  | setRule (name : String) (rule : Rule)

namespace Operation

def perform (s : Schema) : Operation → Except SchemaError Schema
  | .declare name definition => .ok (s.declare name definition)
  | .declareVirtual name => .ok (s.declareVirtual name)
  | .withExplicitOnly explicitOnly => .ok (s.withExplicitOnly explicitOnly)
  | .withOptions options => .ok (s.withOptions options)
  | .setRule name rule => s.setRule name rule

def declared? : Operation → Option String
  | .declare name _ => some name
  | _ => none

def virtual? : Operation → Option String
  | .declareVirtual name => some name
  | _ => none

/-- Whether keys are to be declared from now on. -/
def explicitOnly? : Operation → Option Bool
  | .withExplicitOnly explicitOnly => some explicitOnly
  | .withOptions options => some options.explicitOnly
  | _ => none

/-- The rule that is attached to a name. -/
def ruleFor? (name : String) : Operation → Option Rule
  | .setRule other rule => if other = name then some rule else none
  | _ => none

end Operation

/-- The schema after an operation. One that is refused leaves it as it was. -/
def after (s : Schema) (op : Operation) : Schema :=
  match op.perform s with
  | .ok t => t
  | .error _ => s

def ofHistory (history : List Operation) : Schema := history.foldl after empty

-- ---------------------------------------------------------------------------
-- One operation
-- ---------------------------------------------------------------------------

variable {s : Schema}

theorem mem_keys_iff : name ∈ s.properties.keys ↔ ∃ d, s.get? name = some d :=
  OrderedMap.mem_keys_iff

theorem setRule_of_get? (h : s.get? name = some d) (rule : Rule) :
    s.setRule name rule = .ok (s.declare name { d with rule := some rule }) := by
  rw [setRule, h]

theorem setRule_eq_error_iff :
    s.setRule name rule = .error e ↔ name ∉ s.properties.keys ∧ e = .undeclared name := by
  rw [mem_keys_iff, setRule]
  cases s.get? name with
  | none => simp [eq_comm]
  | some d => simp

/-- To attach a rule is to declare the property anew, with what it had. -/
theorem after_setRule (s : Schema) (name : String) (rule : Rule) :
    s.after (.setRule name rule) =
      (s.get? name).elim s fun d => s.declare name { d with rule := some rule } := by
  cases h : s.get? name with
  | none =>
    have herror : s.setRule name rule = .error (.undeclared name) := by rw [setRule, h]
    rw [after, Operation.perform, herror]
    rfl
  | some d =>
    rw [after, Operation.perform, setRule_of_get? h]
    rfl

theorem keys_after (s : Schema) (op : Operation) :
    (s.after op).properties.keys = op.declared?.elim s.properties.keys fun name =>
      if name ∈ s.properties.keys then s.properties.keys else s.properties.keys ++ [name] := by
  cases op with
  | declare name d => exact s.properties.keys_insert name d
  | setRule name rule =>
    rw [after_setRule]
    cases h : s.get? name with
    | none => rfl
    | some d =>
      refine (s.properties.keys_insert name _).trans ?_
      rw [if_pos (mem_keys_iff.mpr ⟨d, h⟩)]
      rfl
  | declareVirtual name => rfl
  | withExplicitOnly explicitOnly => rfl
  | withOptions options => rfl

theorem virtuals_after (s : Schema) (op : Operation) :
    (s.after op).virtuals.keys = op.virtual?.elim s.virtuals.keys fun name =>
      if name ∈ s.virtuals.keys then s.virtuals.keys else s.virtuals.keys ++ [name] := by
  cases op with
  | declareVirtual name => exact s.virtuals.keys_insert name ()
  | setRule name rule =>
    rw [after_setRule]
    cases s.get? name with
    | none => rfl
    | some d => rfl
  | declare name d => rfl
  | withExplicitOnly explicitOnly => rfl
  | withOptions options => rfl

theorem explicitOnly_after (s : Schema) (op : Operation) :
    (s.after op).options.explicitOnly = op.explicitOnly?.getD s.options.explicitOnly := by
  cases op with
  | setRule name rule =>
    rw [after_setRule]
    cases s.get? name with
    | none => rfl
    | some d => rfl
  | declare name d => rfl
  | declareVirtual name => rfl
  | withExplicitOnly explicitOnly => rfl
  | withOptions options => rfl

theorem get?_after_declare (s : Schema) (name : String) (d : Definition) :
    (s.after (.declare name d)).get? name = some d :=
  s.properties.get?_insert_self name d

/-- Unless it is declared anew, a property keeps all but its rule. -/
theorem get?_after (h : s.get? name = some d) (hop : op.declared? ≠ some name) :
    (s.after op).get? name = some { d with rule := (op.ruleFor? name).or d.rule } := by
  cases op with
  | declare other e =>
    have hne : name ≠ other := fun heq => hop (congrArg some heq.symm)
    exact (s.properties.get?_insert_of_ne e hne).trans h
  | setRule other rule =>
    rw [after_setRule, Operation.ruleFor?]
    by_cases heq : other = name
    · subst heq
      rw [h, if_pos rfl]
      exact s.properties.get?_insert_self other _
    · rw [if_neg heq]
      cases s.get? other with
      | none => exact h
      | some e => exact (s.properties.get?_insert_of_ne _ (Ne.symm heq)).trans h
  | declareVirtual other => exact h
  | withExplicitOnly explicitOnly => exact h
  | withOptions options => exact h

-- ---------------------------------------------------------------------------
-- A whole history
-- ---------------------------------------------------------------------------

theorem ofHistory_append (before after : List Operation) :
    ofHistory (before ++ after) = after.foldl Schema.after (ofHistory before) :=
  List.foldl_append

theorem ofHistory_concat (history : List Operation) (op : Operation) :
    ofHistory (history ++ [op]) = (ofHistory history).after op :=
  ofHistory_append history [op]

theorem eraseDups_concat (names : List String) (name : String) :
    (names ++ [name]).eraseDups =
      if name ∈ names.eraseDups then names.eraseDups else names.eraseDups ++ [name] := by
  rw [List.eraseDups_append]
  by_cases h : name ∈ names
  · have hremoved : [name].removeAll names = [] := by simp [List.removeAll, h]
    rw [hremoved, if_pos (List.mem_eraseDups.mpr h)]
    exact List.append_nil _
  · have hkept : [name].removeAll names = [name] := by simp [List.removeAll, h]
    rw [hkept, if_neg (mt List.mem_eraseDups.mp h)]
    rfl

/-- Names that are listed once, at the end, are listed in the order of their first mention. -/
theorem names_ofHistory (names : Schema → List String) (name? : Operation → Option String)
    (hempty : names empty = [])
    (hafter : ∀ s op, names (s.after op) = (name? op).elim (names s) fun name =>
      if name ∈ names s then names s else names s ++ [name]) (history : List Operation) :
    names (ofHistory history) = (history.filterMap name?).eraseDups := by
  induction history using List.reverseRecOn with
  | nil => exact hempty
  | append_singleton history op ih =>
    rw [ofHistory_concat, hafter, ih, List.filterMap_append]
    cases h : name? op with
    | none => simp [h]
    | some name =>
      rw [List.filterMap_cons_some h, List.filterMap_nil, eraseDups_concat]
      rfl

theorem keys_ofHistory (history : List Operation) :
    (ofHistory history).properties.keys = (history.filterMap Operation.declared?).eraseDups :=
  names_ofHistory (·.properties.keys) Operation.declared? rfl keys_after history

theorem virtuals_ofHistory (history : List Operation) :
    (ofHistory history).virtuals.keys = (history.filterMap Operation.virtual?).eraseDups :=
  names_ofHistory (·.virtuals.keys) Operation.virtual? rfl virtuals_after history

theorem explicitOnly_ofHistory (history : List Operation) :
    (ofHistory history).options.explicitOnly =
      (history.filterMap Operation.explicitOnly?).getLast?.getD true := by
  induction history using List.reverseRecOn with
  | nil => rfl
  | append_singleton history op ih =>
    rw [ofHistory_concat, explicitOnly_after, ih, List.filterMap_append, List.getLast?_append]
    cases h : op.explicitOnly? with
    | none => simp [h]
    | some explicitOnly => simp [h]

theorem get?_foldl_after {ops : List Operation} (h : s.get? name = some d)
    (hops : ∀ op ∈ ops, op.declared? ≠ some name) :
    (ops.foldl after s).get? name =
      some { d with rule := (ops.filterMap (Operation.ruleFor? name)).getLast?.or d.rule } := by
  induction ops generalizing s d with
  | nil => exact h
  | cons op rest ih =>
    -- The property stays declared, so each rule that is offered for it is taken.
    have hnext := get?_after h (hops op List.mem_cons_self)
    have hrest : ∀ other ∈ rest, other.declared? ≠ some name :=
      fun other hother => hops other (List.mem_cons_of_mem _ hother)
    rw [List.foldl_cons, ih hnext hrest]
    cases hrule : op.ruleFor? name with
    | none => rw [List.filterMap_cons_none hrule, Option.none_or]
    | some rule =>
      rw [List.filterMap_cons_some hrule, List.getLast?_cons]
      cases (rest.filterMap (Operation.ruleFor? name)).getLast? with
      | none => rfl
      | some last => rfl

/-- What a schema owes to its history. Once its name is declared, no rule is refused: the last
one that was offered is the last one that was taken. -/
structure Records (s : Schema) (history : List Operation) : Prop where
  distinct : s.properties.keys.Nodup
  names : s.properties.keys = (history.filterMap Operation.declared?).eraseDups
  definition : ∀ before name d after, history = before ++ .declare name d :: after →
    (∀ op ∈ after, op.declared? ≠ some name) →
    s.get? name =
      some { d with rule := (after.filterMap (Operation.ruleFor? name)).getLast?.or d.rule }
  virtuals : s.virtuals.keys = (history.filterMap Operation.virtual?).eraseDups
  explicitOnly : s.options.explicitOnly =
    (history.filterMap Operation.explicitOnly?).getLast?.getD true

/-- Each schema records its history. A rule for a name that was never declared is refused by
that name, which changes nothing; no other rule is. -/
theorem history_recorded (history : List Operation) :
    (ofHistory history).Records history ∧
    (∀ name rule e, (ofHistory history).setRule name rule = .error e ↔
      name ∉ history.filterMap Operation.declared? ∧ e = .undeclared name) ∧
    ∀ name rule, name ∉ history.filterMap Operation.declared? →
      ofHistory (history ++ [.setRule name rule]) = ofHistory history := by
  have hkeys : ∀ {name}, name ∈ (ofHistory history).properties.keys ↔
      name ∈ history.filterMap Operation.declared? := by
    intro name
    rw [keys_ofHistory, List.mem_eraseDups]
  refine ⟨⟨(ofHistory history).properties.nodup, keys_ofHistory history, ?_,
    virtuals_ofHistory history, explicitOnly_ofHistory history⟩, ?_, ?_⟩
  · rintro before name d after rfl hafter
    rw [ofHistory_append, List.foldl_cons]
    exact get?_foldl_after (get?_after_declare _ name d) hafter
  · intro name rule e
    rw [setRule_eq_error_iff, hkeys]
  · intro name rule hname
    have hnone : (ofHistory history).get? name = none :=
      OrderedMap.get?_eq_none_iff_not_mem.mpr (mt hkeys.mp hname)
    rw [ofHistory_concat, after_setRule, hnone]
    rfl

/-- A property declared twice, with a rule before, between and after. -/
theorem history_recorded_age :
    let isInt : Rule := .named "isInt" [] .int
    let age : Definition := ⟨some .string, false, none, none, none⟩
    let before : List Operation :=
      [.setRule "age" isInt, .declare "age" age, .declareVirtual "fullName", .setRule "age" isInt]
    let after : List Operation :=
      [.declare "name" age, .setRule "nick" isInt, .setRule "age" isInt, .withOptions ⟨false⟩]
    let history := before ++ .declare "age" { age with required := true } :: after
    ((∀ op ∈ after, op.declared? ≠ some "age") ∧
      (ofHistory history).get? "age" = some { age with required := true, rule := some isInt }) ∧
      "nick" ∉ history.filterMap Operation.declared? ∧
      ofHistory (history ++ [.setRule "nick" isInt]) = ofHistory history := by
  intro isInt age before after history
  have hafter : ∀ op ∈ after, op.declared? ≠ some "age" := by decide
  have hnick : "nick" ∉ history.filterMap Operation.declared? := by decide
  obtain ⟨hrecords, -, hrefused⟩ := history_recorded history
  exact ⟨⟨hafter, hrecords.definition before "age" _ after rfl hafter⟩, hnick,
    hrefused "nick" isInt hnick⟩

end Schema

end RecordSchema
