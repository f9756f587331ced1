import RecordSchema.Text.Split

/-!
# Sets of characters

A set is its code point ranges, ascending and apart. Tables of Unicode
properties are written as text: `41-5A` is a range, `100~12E` every second
code point of a range, `AA` a single one, all in hexadecimal.
-/

namespace RecordSchema

namespace Unicode

def maxCodePoint : Nat := 0x10FFFF

structure CharSet where
  ranges : Array (Nat × Nat)
  deriving Inhabited

-- ---------------------------------------------------------------------------
-- Table text
-- ---------------------------------------------------------------------------

namespace Table

/-- The maximal runs of characters other than spaces and line ends. -/
def words (text : List Char) : List (List Char) :=
  let step (state : List (List Char) × List Char) (c : Char) : List (List Char) × List Char :=
    if c == ' ' || c == '\n' then
      (if state.2.isEmpty then state.1 else state.2.reverse :: state.1, [])
    else (state.1, c :: state.2)
  let (done, last) := text.foldl step ([], [])
  (if last.isEmpty then done else last.reverse :: done).reverse

def hexValue (cs : List Char) : Nat := cs.foldl (fun n c => 16 * n + Text.hexDigitValue c) 0

def everySecond (low high : Nat) : List (Nat × Nat) :=
  (List.range ((high - low) / 2 + 1)).map fun i => (low + 2 * i, low + 2 * i)

/-- The ranges that one word of a table stands for. -/
def wordRanges (word : List Char) : List (Nat × Nat) :=
  match Text.splitOn '-' word with
  | [low, high] => [(hexValue low, hexValue high)]
  | _ =>
    match Text.splitOn '~' word with
    | [low, high] => everySecond (hexValue low) (hexValue high)
    | _ => [(hexValue word, hexValue word)]

end Table

namespace CharSet

-- ---------------------------------------------------------------------------
-- Set algebra
-- ---------------------------------------------------------------------------

/-- Ascending ranges with those joined that touch or overlap. -/
def joinFrom (low high : Nat) : List (Nat × Nat) → List (Nat × Nat)
  | [] => [(low, high)]
  | (a, b) :: rest =>
    if a ≤ high + 1 then joinFrom low (max high b) rest
    else (low, high) :: joinFrom a b rest

def ofRanges (ranges : List (Nat × Nat)) : CharSet :=
  match ranges.mergeSort (fun r s => r.1 ≤ s.1) with
  | [] => ⟨#[]⟩
  | (a, b) :: rest => ⟨(joinFrom a b rest).toArray⟩

def ofTable (text : String) : CharSet :=
  ofRanges ((Table.words text.toList).flatMap Table.wordRanges)

def empty : CharSet := ⟨#[]⟩

def all : CharSet := ⟨#[(0, maxCodePoint)]⟩

def range (low high : Char) : CharSet := ⟨#[(low.toNat, high.toNat)]⟩

def single (c : Char) : CharSet := range c c

def isEmpty (s : CharSet) : Bool := s.ranges.isEmpty

def union (s t : CharSet) : CharSet := ofRanges (s.ranges.toList ++ t.ranges.toList)

def unions (sets : List CharSet) : CharSet := ofRanges (sets.flatMap fun s => s.ranges.toList)

/-- The gaps of ascending ranges from `low` on. -/
def gapsFrom (low : Nat) : List (Nat × Nat) → List (Nat × Nat)
  | [] => if low ≤ maxCodePoint then [(low, maxCodePoint)] else []
  | (a, b) :: rest =>
    if low < a then (low, a - 1) :: gapsFrom (b + 1) rest else gapsFrom (b + 1) rest

def complement (s : CharSet) : CharSet := ⟨(gapsFrom 0 s.ranges.toList).toArray⟩

def inter (s t : CharSet) : CharSet := (union s.complement t.complement).complement

def diff (s t : CharSet) : CharSet := inter s t.complement

def symmDiff (s t : CharSet) : CharSet := union (diff s t) (diff t s)

-- ---------------------------------------------------------------------------
-- Membership
-- ---------------------------------------------------------------------------

/-- Halve the ranges that may hold a code point; `tries` bounds the halvings. -/
def searchFrom (ranges : Array (Nat × Nat)) (n : Nat) : Nat → Nat → Nat → Bool
  | 0, _, _ => false
  | tries + 1, low, high =>
    if low < high then
      let mid := (low + high) / 2
      match ranges[mid]? with
      | some (a, b) =>
        if n < a then searchFrom ranges n tries low mid
        else if b < n then searchFrom ranges n tries (mid + 1) high
        else true
      | none => false
    else false

def containsCode (s : CharSet) (n : Nat) : Bool :=
  searchFrom s.ranges n (s.ranges.size + 1) 0 s.ranges.size

def contains (s : CharSet) (c : Char) : Bool := s.containsCode c.toNat

end CharSet

end Unicode

end RecordSchema
