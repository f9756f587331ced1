/-!
# White space

The Unicode property `White_Space`, and trimming by it. U+200B, U+FEFF and
U+180E are not white space.
-/

namespace RecordSchema

namespace Text

def isBlank (c : Char) : Bool :=
  let n := c.toNat
  (9 ≤ n && n ≤ 13) || n == 0x20 || n == 0x85 || n == 0xA0 || n == 0x1680
    || (0x2000 ≤ n && n ≤ 0x200A) || n == 0x2028 || n == 0x2029 || n == 0x202F
    || n == 0x205F || n == 0x3000

/-- Characters with white space removed at both ends. -/
def trimChars (cs : List Char) : List Char :=
  ((cs.dropWhile isBlank).reverse.dropWhile isBlank).reverse

def trim (s : String) : String := String.ofList (trimChars s.toList)

/-- Nothing but white space, the empty text included. -/
def isAllBlank (s : String) : Bool := s.toList.all isBlank

end Text

end RecordSchema
