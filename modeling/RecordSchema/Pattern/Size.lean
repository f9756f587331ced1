import RecordSchema.Pattern.Reader

/-!
# Compiled size

An estimate of the memory, in bytes, of the automaton that a pattern compiles
to: one state for each byte of a literal and each byte range of a class, and as
many copies of a part as its counts ask for. Patterns beyond a limit are refused.
-/

namespace RecordSchema

namespace Pattern

-- ---------------------------------------------------------------------------
-- Ranges of bytes
-- ---------------------------------------------------------------------------

/-- Where a range of code points has to be cut so that its UTF-8 forms are
products of byte ranges: at the borders of lengths, of surrogates, and of blocks
of 64. The first part ends at the place found. -/
def cut? (low high : Nat) : Option Nat :=
  let border? := [0x7F, 0x7FF, 0xD7FF, 0xDFFF, 0xFFFF].find? fun b => low ≤ b && b < high
  border?.or ([0x40, 0x1000, 0x40000].findSome? fun block =>
    if low / block == high / block || low < 0x80 then none
    else if low % block != 0 then some (low / block * block + block - 1)
    else if high % block != block - 1 then some (high / block * block - 1)
    else none)

def cutRange : Nat → Nat → Nat → List (Nat × Nat)
  | 0, low, high => [(low, high)]
  | cuts + 1, low, high =>
    match cut? low high with
    | some middle => cutRange cuts low middle ++ cutRange cuts (middle + 1) high
    | none => [(low, high)]

def utf8Bytes (n : Nat) : List Nat :=
  if n < 0x80 then [n]
  else if n < 0x800 then [0xC0 + n / 0x40, 0x80 + n % 0x40]
  else if n < 0x10000 then [0xE0 + n / 0x1000, 0x80 + n / 0x40 % 0x40, 0x80 + n % 0x40]
  else [0xF0 + n / 0x40000, 0x80 + n / 0x1000 % 0x40, 0x80 + n / 0x40 % 0x40, 0x80 + n % 0x40]

/-- The byte range sequences of a set, in order. -/
def byteSequences (s : Unicode.CharSet) : List (List (Nat × Nat)) :=
  (s.ranges.toList.flatMap fun r => cutRange 16 r.1 r.2).filterMap fun (low, high) =>
    if 0xD800 ≤ low && high ≤ 0xDFFF then none else some ((utf8Bytes low).zip (utf8Bytes high))

def commonLength : List (Nat × Nat) → List (Nat × Nat) → Nat
  | a :: as, b :: bs => if a == b then commonLength as bs + 1 else 0
  | _, _ => 0

/-- Byte ranges that do not continue a beginning already seen. -/
def distinctFrom (previous : List (Nat × Nat)) : List (List (Nat × Nat)) → Nat
  | [] => 0
  | s :: rest => (s.length - commonLength previous s) + distinctFrom s rest

-- ---------------------------------------------------------------------------
-- Sizes
-- ---------------------------------------------------------------------------

def stateBytes : Nat := 32
def edgeBytes : Nat := 4

def charSize (s : Unicode.CharSet) : Nat :=
  match s.ranges.toList with
  | [] => stateBytes
  | [(low, high)] =>
    if low == high then (utf8Bytes low).length * stateBytes else classSize s
  | _ => classSize s
where
  classSize (s : Unicode.CharSet) : Nat :=
    if (s.diff asciiSet).isEmpty then 2 * stateBytes + 2 * edgeBytes * s.ranges.size
    else
      let sequences := byteSequences s
      (2 + distinctFrom [] sequences) * stateBytes + edgeBytes * sequences.length

mutual
/-- The pattern matches the empty text only. -/
def isWidthless : Pattern → Bool
  | .empty | .look _ => true
  | .char _ _ => false
  | .group _ body => body.isWidthless
  | .concat parts => allWidthless parts
  | .branch choices => allWidthless choices
  | .repeated body _ max => body.isWidthless || max == some 0
def allWidthless : List Pattern → Bool
  | [] => true
  | p :: rest => p.isWidthless && allWidthless rest
end

mutual
/-- The pattern may match the empty text. -/
def isNullable : Pattern → Bool
  | .empty | .look _ => true
  | .char _ _ => false
  | .group _ body => body.isNullable
  | .concat parts => allNullable parts
  | .branch choices => anyNullable choices
  | .repeated body min _ => body.isNullable || min == 0
def allNullable : List Pattern → Bool
  | [] => true
  | p :: rest => p.isNullable && allNullable rest
def anyNullable : List Pattern → Bool
  | [] => false
  | p :: rest => p.isNullable || anyNullable rest
end

/-- The size of a repetition of a body of a given size. -/
def repeatedSize (body : Nat) (nullable : Bool) (min : Nat) : Option Nat → Nat
  | none =>
    if min == 0 && nullable then body + 3 * stateBytes + 5 * edgeBytes
    else Nat.max min 1 * body + stateBytes + 2 * edgeBytes
  | some max =>
    if max == 0 then stateBytes
    else if min == max then min * body
    else min * body + (max - min) * (body + stateBytes + 2 * edgeBytes) + stateBytes

mutual
def size : Pattern → Nat
  | .empty => stateBytes
  | .look _ => stateBytes
  | .char set _ => charSize set
  | .group capturing body => (if capturing then 2 * stateBytes else 0) + body.size
  | .concat parts => sizeAll parts
  | .branch choices => 2 * stateBytes + edgeBytes * choices.length + sizeAll choices
  | .repeated body min max =>
    -- further copies of what has no width add nothing
    if body.isWidthless then
      repeatedSize body.size body.isNullable (Nat.min min 1) (max.map fun m => Nat.min m 1)
    else repeatedSize body.size body.isNullable min max
def sizeAll : List Pattern → Nat
  | [] => 0
  | p :: rest => p.size + sizeAll rest
end

/-- States around every pattern. -/
def frameSize : Nat := 5 * stateBytes + 4 * edgeBytes

/-- The memory that a compiled pattern may take: 10 MiB. -/
def sizeLimit : Nat := 10 * 1024 * 1024

/-- The pattern of a text that is well-formed and small enough. -/
def compile? (cs : List Char) : Option Pattern :=
  (ofChars? cs).filter fun p => p.size + frameSize ≤ sizeLimit

end Pattern

end RecordSchema
