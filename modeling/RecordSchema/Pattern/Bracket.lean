import RecordSchema.Pattern.Escape

/-!
# Bracketed classes

Classes between `[` and `]`: characters, ranges, named classes, classes inside
classes, and the operations `&&`, `--` and `~~`, which are taken from the left.
-/

namespace RecordSchema

namespace Pattern

open Unicode

inductive SetOp where
  | inter
  | diff
  | symmDiff

def SetOp.apply : SetOp → CharSet → CharSet → CharSet
  | .inter => CharSet.inter
  | .diff => CharSet.diff
  | .symmDiff => CharSet.symmDiff

/-- Items side by side: their sets, their number and their highest nesting. -/
structure Operand where
  sets : List CharSet
  count : Nat
  levels : Nat

namespace Operand

def empty : Operand := ⟨[], 0, 0⟩

def add (o : Operand) (s : CharSet) (levels : Nat) : Operand :=
  ⟨s :: o.sets, o.count + 1, max o.levels levels⟩

def set (o : Operand) : CharSet := .unions o.sets

/-- Several items are one level more than a single one. -/
def height (o : Operand) : Nat := if o.count ≤ 1 then o.levels else o.levels + 1

end Operand

/-- An open bracket: the operation that waits for its right side, and the items
read since. -/
structure Bracket where
  negated : Bool
  pending : Option (SetOp × CharSet × Nat)
  operand : Operand

namespace Bracket

/-- The set so far, and its nesting. -/
def result (flags : Flags) (b : Bracket) : CharSet × Nat :=
  match b.pending with
  | none => (b.operand.set, b.operand.height)
  | some (op, left, levels) =>
    (op.apply (flags.fold left) (flags.fold b.operand.set), max levels b.operand.height + 1)

def startOp (flags : Flags) (b : Bracket) (op : SetOp) : Bracket :=
  let (left, levels) := b.result flags
  ⟨b.negated, some (op, left, levels), .empty⟩

/-- The class of a closed bracket, and its nesting. -/
def close? (flags : Flags) (b : Bracket) : Option (CharSet × Nat) :=
  let (set, levels) := b.result flags
  let folded := flags.fold set
  let class' := if b.negated then folded.complement else folded
  if flags.admits class' then some (class', levels + 1) else none

/-- After `[`: an optional `^`, then hyphens and a `]` that stand for themselves. -/
def openAt? (flags : Flags) (cs : List Char) : Option (Bracket × List Char) :=
  let cs := skip flags.verbose cs
  let (negated, cs) :=
    match cs with
    | '^' :: rest => (true, skip flags.verbose rest)
    | cs => (false, cs)
  let (hyphens, cs) := collect flags.verbose (· == '-') cs
  let operand := hyphens.foldl (fun o c => o.add (.single c) 0) Operand.empty
  match cs with
  | [] => none
  | ']' :: rest =>
    if hyphens.isEmpty then some (⟨negated, none, operand.add (.single ']') 0⟩, skip flags.verbose rest)
    else some (⟨negated, none, operand⟩, cs)
  | cs => some (⟨negated, none, operand⟩, cs)

end Bracket

/-- A class `:name:]` or `:^name:]`; the text starts after the bracket. -/
def posixClass? (flags : Flags) : List Char → Option (Option (CharSet × List Char))
  | ':' :: rest =>
    let (negated, rest) :=
      match rest with
      | '^' :: rest => (true, rest)
      | rest => (false, rest)
    let name := rest.takeWhile (· != ':')
    match rest.dropWhile (· != ':') with
    | ':' :: ']' :: after =>
      match posixTables.lookup (String.ofList name) with
      | some table =>
        let folded := flags.fold (.ofTable table)
        let set := if negated then folded.complement else folded
        some (if flags.admits set then some (set, after) else none)
      | none => none
    | _ => none
  | _ => none

def classAtom? (flags : Flags) : List Char → Option (Atom × List Char)
  | '\\' :: rest => escape? flags rest
  | c :: rest => some (.literal c false, rest)
  | [] => none

/-- The character of a literal that may stand in a class. -/
def classLiteral? (flags : Flags) : Atom → Option Char
  | .literal c _ => if flags.unicode || Text.isAscii c then some c else none
  | _ => none

/-- A character, a class, or a range between two characters. -/
def classItem? (flags : Flags) (cs : List Char) : Option (CharSet × List Char) := do
  let (first, cs) ← classAtom? flags cs
  let single? : Option CharSet :=
    match first with
    | .set s => if flags.admits s then some s else none
    | first => (classLiteral? flags first).map .single
  match skip flags.verbose cs with
  | [] => none
  | '-' :: rest =>
    match skip flags.verbose rest with
    | ']' :: _ | '-' :: _ => single?.map (·, '-' :: rest)
    | rest => do
      let low ← classLiteral? flags first
      let (second, after) ← classAtom? flags rest
      let high ← classLiteral? flags second
      if low ≤ high then some (.range low high, after) else none
  | cs => single?.map (·, cs)

/-- Read on inside `bracket`, which stands in the brackets `outer`. Each round
takes at least one character, and `rounds` bounds their number. -/
def readClass (flags : Flags) (outer : List Bracket) (bracket : Bracket) :
    Nat → List Char → Option (CharSet × Nat × List Char)
  | 0, _ => none
  | rounds + 1, cs =>
    match skip flags.verbose cs with
    | [] => none
    | '[' :: rest =>
      match posixClass? flags rest with
      | some found => do
        let (set, after) ← found
        readClass flags outer { bracket with operand := bracket.operand.add set 0 } rounds after
      | none => do
        let (inner, after) ← Bracket.openAt? flags rest
        readClass flags (bracket :: outer) inner rounds after
    | ']' :: rest => do
      let (set, levels) ← bracket.close? flags
      match outer with
      | [] => some (set, levels, rest)
      | enclosing :: outer =>
        readClass flags outer { enclosing with operand := enclosing.operand.add set levels } rounds rest
    | '&' :: '&' :: rest => readClass flags outer (bracket.startOp flags .inter) rounds rest
    | '-' :: '-' :: rest => readClass flags outer (bracket.startOp flags .diff) rounds rest
    | '~' :: '~' :: rest => readClass flags outer (bracket.startOp flags .symmDiff) rounds rest
    | cs => do
      let (set, after) ← classItem? flags cs
      readClass flags outer { bracket with operand := bracket.operand.add set 0 } rounds after

/-- A class, its nesting and the text after it; the text starts after `[`. -/
def bracketClass? (flags : Flags) (cs : List Char) : Option (CharSet × Nat × List Char) := do
  let (bracket, rest) ← Bracket.openAt? flags cs
  readClass flags [] bracket (cs.length + 1) rest

end Pattern

end RecordSchema
