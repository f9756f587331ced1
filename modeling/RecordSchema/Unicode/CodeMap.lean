import RecordSchema.Unicode.CharSet

/-!
# Maps of characters

Finite maps from code points to code point sequences, read from table text.
-/

namespace RecordSchema

namespace Unicode

/-- What each of some code points is mapped to, ascending by code point. -/
structure CodeMap where
  entries : Array (Nat × List Nat)
  deriving Inhabited

namespace CodeMap

/-- A word of a table: `41-5A>61` maps a range onto the range from 61, `100~12E>101`
every second code point of a range by the same distance, `DF>53.53` one to several. -/
def wordEntries (word : List Char) : List (Nat × List Nat) :=
  match Text.splitOn '>' word with
  | [source, target] =>
    let targets := (Text.splitOn '.' target).map Table.hexValue
    match targets with
    | [first] =>
      let codes := (Table.wordRanges source).flatMap fun r =>
        (List.range (r.2 + 1 - r.1)).map fun i => r.1 + i
      match codes with
      | [] => []
      | low :: _ => codes.map fun n => (n, [first + (n - low)])
    | _ => [(Table.hexValue source, targets)]
  | _ => []

def ofTable (text : String) : CodeMap := ⟨((Table.words text.toList).flatMap wordEntries).toArray⟩

/-- Halve the entries that may hold a code point; `tries` bounds the halvings. -/
def searchFrom (entries : Array (Nat × List Nat)) (n : Nat) : Nat → Nat → Nat → Option (List Nat)
  | 0, _, _ => none
  | tries + 1, low, high =>
    if low < high then
      let mid := (low + high) / 2
      match entries[mid]? with
      | some (key, targets) =>
        if n < key then searchFrom entries n tries low mid
        else if key < n then searchFrom entries n tries (mid + 1) high
        else some targets
      | none => none
    else none

def find? (m : CodeMap) (n : Nat) : Option (List Nat) :=
  searchFrom m.entries n (m.entries.size + 1) 0 m.entries.size

/-- The image of a character; one that is not listed stays as it is. -/
def image (m : CodeMap) (c : Char) : List Char :=
  match m.find? c.toNat with
  | some targets => targets.map Char.ofNat
  | none => [c]

end CodeMap

end Unicode

end RecordSchema
