import RecordSchema.Unicode.Decomposition
import RecordSchema.Unicode.Folding
import RecordSchema.Unicode.Property

/-!
# Normalization

Form NFC of code point sequences, and the mapping `NFKC_Casefold` of single
ones, which folds case and compatibility and drops what is ignorable.
-/

namespace RecordSchema

namespace Unicode

-- ---------------------------------------------------------------------------
-- Hangul
-- ---------------------------------------------------------------------------

def hangulBase : Nat := 0xAC00
def leadBase : Nat := 0x1100
def vowelBase : Nat := 0x1161
def tailBase : Nat := 0x11A7

/-- The consonants and the vowel of a syllable. -/
def hangulParts? (n : Nat) : Option (List Nat) :=
  if hangulBase ≤ n ∧ n < hangulBase + 11172 then
    let index := n - hangulBase
    let open2 := [leadBase + index / 588, vowelBase + index % 588 / 28]
    some (if index % 28 = 0 then open2 else open2 ++ [tailBase + index % 28])
  else none

def hangulPair? (first second : Nat) : Option Nat :=
  if leadBase ≤ first ∧ first < leadBase + 19 ∧ vowelBase ≤ second ∧ second < vowelBase + 21 then
    some (hangulBase + ((first - leadBase) * 21 + (second - vowelBase)) * 28)
  else if hangulBase ≤ first ∧ first < hangulBase + 11172 ∧ (first - hangulBase) % 28 = 0
      ∧ tailBase < second ∧ second < tailBase + 28 then
    some (first + (second - tailBase))
  else none

-- ---------------------------------------------------------------------------
-- Decomposition and order
-- ---------------------------------------------------------------------------

/-- The canonical parts of a code point. Pairs nest at most a few levels. -/
def canonicalParts : Nat → Nat → List Nat
  | 0, n => [n]
  | levels + 1, n =>
    match hangulParts? n with
    | some parts => parts
    | none =>
      match pairMap.find? n with
      | some parts => parts.flatMap (canonicalParts levels)
      | none => (onewayMap.find? n).getD [n]

def decompose (cs : List Nat) : List Nat := cs.flatMap (canonicalParts 8)

def decomposeFully (cs : List Nat) : List Nat :=
  (decompose cs).flatMap fun n => (compatibilityMap.find? n).getD [n]

/-- Put a mark before those that its class precedes; `marks` is a run in order,
latest first. -/
def insertMark (cls n : Nat) : List (Nat × Nat) → List (Nat × Nat)
  | [] => [(cls, n)]
  | (c, m) :: rest => if cls < c then (c, m) :: insertMark cls n rest else (cls, n) :: (c, m) :: rest

/-- Marks in the order of their classes, each run of marks on its own. -/
def reorderFrom (marks : List (Nat × Nat)) : List Nat → List Nat
  | [] => marks.reverse.map Prod.snd
  | n :: rest =>
    match combiningClass n with
    | 0 => marks.reverse.map Prod.snd ++ n :: reorderFrom [] rest
    | cls => reorderFrom (insertMark cls n marks) rest

-- ---------------------------------------------------------------------------
-- Composition
-- ---------------------------------------------------------------------------

def pairKey (first second : Nat) : Nat := first * 0x200000 + second

/-- Composites by the key of their pair. -/
def compositeMap : CodeMap :=
  let keyed := pairMap.entries.toList.filterMap fun entry =>
    match entry.2 with
    | [first, second] => some (pairKey first second, [entry.1])
    | _ => none
  ⟨(keyed.mergeSort fun p q => p.1 ≤ q.1).toArray⟩

def composePair? (first second : Nat) : Option Nat :=
  match hangulPair? first second with
  | some n => some n
  | none => (compositeMap.find? (pairKey first second)).bind List.head?

/-- Compose a starter with the marks and starters that follow it; a mark is
blocked by one of its class or higher between. -/
def composeFrom (starter : Nat) (reversedMarks : List Nat) (lastClass : Nat) :
    List Nat → List Nat
  | [] => starter :: reversedMarks.reverse
  | n :: rest =>
    let cls := combiningClass n
    let reachable := reversedMarks.isEmpty || lastClass < cls
    match if reachable then composePair? starter n else none with
    | some composite => composeFrom composite reversedMarks lastClass rest
    | none =>
      if cls = 0 then starter :: (reversedMarks.reverse ++ composeFrom n [] 0 rest)
      else composeFrom starter (n :: reversedMarks) cls rest

/-- Marks before the first starter stay; the rest composes. -/
def compose : List Nat → List Nat
  | [] => []
  | n :: rest => if combiningClass n = 0 then composeFrom n [] 0 rest else n :: compose rest

def nfc (cs : List Nat) : List Nat := compose (reorderFrom [] (decompose cs))

def nfkc (cs : List Nat) : List Nat := compose (reorderFrom [] (decomposeFully cs))

-- ---------------------------------------------------------------------------
-- Folded form
-- ---------------------------------------------------------------------------

def fullFold (n : Nat) : List Nat :=
  match expandingFoldMap.find? n with
  | some image => image
  | none => (simpleFoldMap.find? n).getD [n]

def foldOnce (cs : List Nat) : List Nat :=
  let visible := cs.filter fun n => !defaultIgnorable.containsCode n
  (nfkc ((reorderFrom [] (decompose visible)).flatMap fullFold)).filter fun n =>
    !defaultIgnorable.containsCode n

/-- The mapping `NFKC_Casefold`: folding is repeated until it settles. -/
def nfkcCasefold (n : Nat) : List Nat := foldOnce (foldOnce (foldOnce [n]))

end Unicode

end RecordSchema
