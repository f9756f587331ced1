import RecordSchema.Rule.Library

/-!
# The registry of rules

The list of names, the checks that they resolve to and the rules that refusals blame are
written apart. `resolve_answers` and `resolve_of_not_mem` say that they agree: a listed name
resolves to a check of that name, or its arguments are refused under that name, and no other
name is known.
-/

namespace RecordSchema

namespace Library

/-- What may come of the arguments of a rule: a result that fits, or a refusal that blames
the rule. -/
def Answers (rule : String) (fits : α → Prop) : Except SchemaError α → Prop
  | .ok a => fits a
  | .error e => ∃ cause, e = .arguments rule cause

theorem Answers.refuse {fits : α → Prop} (cause : ArgumentError) :
    Answers rule fits (refuse rule cause) :=
  ⟨cause, rfl⟩

theorem Answers.bind {fits : α → Prop} {other : β → Prop} {x : Except SchemaError α}
    {f : α → Except SchemaError β} (hx : Answers rule fits x)
    (hf : ∀ a, fits a → Answers rule other (f a)) : Answers rule other (x >>= f) := by
  cases x with
  | ok a => exact hf a hx
  | error e => exact hx

theorem Answers.map {fits : α → Prop} {other : β → Prop} {x : Except SchemaError α} {f : α → β}
    (hx : Answers rule fits x) (hf : ∀ a, fits a → other (f a)) :
    Answers rule other (x.map f) := by
  cases x with
  | ok a => exact hf a hx
  | error e => exact hx

theorem Answers.mapM {f : α → Except SchemaError β} (hf : ∀ a, Answers rule (fun _ => True) (f a))
    (items : List α) : Answers rule (fun _ => True) (items.mapM f) := by
  induction items with
  | nil => trivial
  | cons item rest ih =>
    rw [List.mapM_cons]
    exact (hf item).bind fun _ _ => ih.bind fun _ _ => trivial

-- ---------------------------------------------------------------------------
-- Arguments
-- ---------------------------------------------------------------------------

theorem textArg_answers (rule : String) (args : List Json) (index : Nat) :
    Answers rule (fun _ => True) (textArg rule args index) := by
  unfold textArg
  split
  · exact .refuse _
  · split
    · trivial
    · exact .refuse _

theorem lengthArg_answers (rule : String) (arg : Option Json) :
    Answers rule (fun _ => True) (lengthArg rule arg) := by
  unfold lengthArg
  split
  · trivial
  · trivial
  · split
    · trivial
    · exact .refuse _
  · exact .refuse _

theorem versionArg_answers (rule : String) (allowed : List Nat) (args : List Json) :
    Answers rule (fun _ => True) (versionArg rule allowed args) := by
  unfold versionArg
  extract_lets chosen
  have hchosen : ∀ j, Answers rule (fun _ => True) (chosen j) := by
    intro j
    dsimp only [chosen]
    split
    · trivial
    · exact .refuse _
  split
  · trivial
  · trivial
  · split
    · trivial
    · exact hchosen _
  · exact hchosen _

theorem flagsArg_answers (rule : String) (args : List Json) :
    Answers rule (fun _ => True) (flagsArg rule args) := by
  unfold flagsArg
  split
  · trivial
  · trivial
  · exact textArg_answers _ _ _

theorem lengthCheck_answers (args : List Json) :
    Answers "isLength" (fun check => check.name = "isLength") (lengthCheck args) := by
  refine (lengthArg_answers _ _).bind fun min _ => (lengthArg_answers _ _).bind fun max _ => ?_
  split
  · split
    · exact .refuse _
    · rfl
  · rfl

theorem patternCheck_answers (args : List Json) :
    Answers "matches" (fun check => check.name = "matches") (patternCheck args) := by
  refine (textArg_answers _ _ _).bind fun pattern _ => (flagsArg_answers _ _).bind fun flags _ => ?_
  split
  · exact .refuse _
  · extract_lets source
    cases Pattern.compile? source.toList with
    | some p => rfl
    | none => exact .refuse _

theorem optionsCheck_answers (args : List Json) :
    Answers "isIn" (fun check => check.name = "isIn") (optionsCheck args) := by
  unfold optionsCheck
  split
  · exact (Answers.mapM (textArg_answers _ _) _).bind fun _ _ => rfl
  · exact .refuse _

-- ---------------------------------------------------------------------------
-- Names
-- ---------------------------------------------------------------------------

theorem contains_iff_mem_names : contains name = true ↔ name ∈ names :=
  List.contains_iff_mem

theorem resolve_answers (h : name ∈ names) (args : List Json) :
    Answers name (fun check => check.name = name) (resolve name args) := by
  unfold resolve
  -- Most rules take no arguments.
  split <;> try exact rfl
  · exact (versionArg_answers _ _ _).map fun _ _ => rfl
  · exact (versionArg_answers _ _ _).map fun _ _ => rfl
  · exact lengthCheck_answers args
  · exact patternCheck_answers args
  · exact (textArg_answers _ _ _).map fun _ _ => rfl
  · exact (textArg_answers _ _ _).map fun _ _ => rfl
  · exact optionsCheck_answers args
  · simp_all [names]

theorem resolve_of_not_mem (h : name ∉ names) (args : List Json) :
    resolve name args = .error (.unknownRule name) := by
  unfold resolve
  split <;> first
    | rfl
    | exact absurd (by decide) h

/-- An error is about the name that was asked for, and nothing but its registration and
arguments. -/
theorem resolve_error_cases (h : resolve name args = .error e) :
    (name ∉ names ∧ e = .unknownRule name) ∨ (name ∈ names ∧ ∃ cause, e = .arguments name cause) := by
  by_cases hname : name ∈ names
  · have hanswers := resolve_answers hname args
    rw [h] at hanswers
    exact .inr ⟨hname, hanswers⟩
  · rw [resolve_of_not_mem hname] at h
    cases h
    exact .inl ⟨hname, rfl⟩

theorem name_of_resolve (h : resolve name args = .ok check) : check.name = name := by
  by_cases hname : name ∈ names
  · have hanswers := resolve_answers hname args
    rwa [h] at hanswers
  · rw [resolve_of_not_mem hname] at h
    cases h

end Library

end RecordSchema
