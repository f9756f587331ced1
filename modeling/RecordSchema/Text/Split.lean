/-!
# Splitting texts

The parts of a text between the occurrences of a mark: always one part more
than there are marks.
-/

namespace RecordSchema

namespace Text

def splitOn (mark : Char) : List Char → List (List Char)
  | [] => [[]]
  | c :: rest =>
    if c = mark then [] :: splitOn mark rest
    else
      match splitOn mark rest with
      | part :: parts => (c :: part) :: parts
      | [] => [[c]]

theorem splitOn_ne_nil (mark : Char) (cs : List Char) : splitOn mark cs ≠ [] := by
  cases cs with
  | nil => simp [splitOn]
  | cons c rest =>
    simp only [splitOn]
    split
    · simp
    · split <;> simp

/-- What precedes the last occurrence of a mark, and what follows it. -/
def splitLast? (mark : Char) (cs : List Char) : Option (List Char × List Char) :=
  let reversedAfter := cs.reverse.takeWhile (fun c => c != mark)
  match cs.reverse.dropWhile (fun c => c != mark) with
  | [] => none
  | _ :: reversedBefore => some (reversedBefore.reverse, reversedAfter.reverse)

/-- The bytes of the characters in UTF-8. -/
def utf8Length (cs : List Char) : Nat := cs.foldl (fun n c => n + c.utf8Size) 0

def isAscii (c : Char) : Bool := c.toNat < 0x80

def isHexDigit (c : Char) : Bool :=
  ('0' ≤ c && c ≤ '9') || ('a' ≤ c && c ≤ 'f') || ('A' ≤ c && c ≤ 'F')

def hexDigitValue (c : Char) : Nat :=
  if c.isDigit then c.toNat - '0'.toNat
  else if 'a' ≤ c then c.toNat - 'a'.toNat + 10
  else c.toNat - 'A'.toNat + 10

end Text

end RecordSchema
