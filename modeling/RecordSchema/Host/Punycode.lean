import RecordSchema.Text.Split

/-!
# Punycode

Labels of other scripts in ASCII: the ASCII characters as they are, then where
to insert the others, as differences in a variable base.
-/

namespace RecordSchema

namespace Punycode

def digitValue? (c : Char) : Option Nat :=
  if 'a' ≤ c ∧ c ≤ 'z' then some (c.toNat - 'a'.toNat)
  else if 'A' ≤ c ∧ c ≤ 'Z' then some (c.toNat - 'A'.toNat)
  else if '0' ≤ c ∧ c ≤ '9' then some (c.toNat - '0'.toNat + 26)
  else none

def digitChar (d : Nat) : Char := if d < 26 then Char.ofNat (0x61 + d) else Char.ofNat (0x30 + d - 26)

/-- The threshold of the digit at position `k`. -/
def threshold (k bias : Nat) : Nat := if k ≤ bias then 1 else if bias + 26 ≤ k then 26 else k - bias

def adaptFrom (delta k : Nat) : Nat :=
  if 455 < delta then adaptFrom (delta / 35) (k + 36) else k + 36 * delta / (delta + 38)
termination_by delta
decreasing_by exact Nat.div_lt_self (by omega) (by omega)

/-- The bias after a difference, the first one being damped. -/
def adapt (delta count : Nat) (first : Bool) : Nat :=
  let scaled := if first then delta / 700 else delta / 2
  adaptFrom (scaled + scaled / count) 0

-- ---------------------------------------------------------------------------
-- Decoding
-- ---------------------------------------------------------------------------

/-- One difference and the digits after it. -/
def readDelta (bias k weight value : Nat) : List Char → Option (Nat × List Char)
  | [] => none
  | c :: rest => do
    let digit ← digitValue? c
    let t := threshold k bias
    let value := value + digit * weight
    if digit < t then some (value, rest)
    else readDelta bias (k + 36) (weight * (36 - t)) value rest

/-- Insert one character for each difference; `tries` bounds their number. -/
def insertFrom (first : Bool) (code index bias : Nat) (output : List Char) :
    Nat → List Char → Option (List Char)
  | _, [] => some output
  | 0, _ :: _ => none
  | tries + 1, digits => do
    let (delta, rest) ← readDelta bias 36 1 0 digits
    let count := output.length + 1
    let code := code + (index + delta) / count
    let place := (index + delta) % count
    if code.isValidChar then
      insertFrom false code (place + 1) (adapt delta count first)
        (output.take place ++ Char.ofNat code :: output.drop place) tries rest
    else none

/-- The label that a text without its prefix stands for. -/
def decode? (cs : List Char) : Option (List Char) :=
  let (basic, digits) := (Text.splitLast? '-' cs).getD ([], cs)
  if basic.all Text.isAscii then insertFrom true 0x80 0 72 basic digits.length digits else none

-- ---------------------------------------------------------------------------
-- Encoding
-- ---------------------------------------------------------------------------

theorem threshold_le (k bias : Nat) : threshold k bias ≤ 26 := by
  unfold threshold
  split
  · omega
  · split <;> omega

theorem one_le_threshold (k bias : Nat) : 1 ≤ threshold k bias := by
  unfold threshold
  split
  · omega
  · split <;> omega

/-- The digits of a difference, the last one below its threshold. -/
def writeDelta (bias k value : Nat) : List Char :=
  if value < threshold k bias then [digitChar value]
  else
    let t := threshold k bias
    digitChar (t + (value - t) % (36 - t)) :: writeDelta bias (k + 36) ((value - t) / (36 - t))
termination_by value
decreasing_by
  have hle := threshold_le k bias
  have hge := one_le_threshold k bias
  exact Nat.lt_of_le_of_lt (Nat.div_le_self _ _) (by omega)

structure Writer where
  delta : Nat
  bias : Nat
  handled : Nat
  first : Bool
  reversed : List Char

/-- Pass one character of the label while `code` is being inserted. -/
def Writer.pass (code : Nat) (w : Writer) (c : Char) : Writer :=
  if c.toNat < code then { w with delta := w.delta + 1 }
  else if c.toNat = code then
    ⟨0, adapt w.delta (w.handled + 1) w.first, w.handled + 1, false,
      (writeDelta w.bias 36 w.delta).reverse ++ w.reversed⟩
  else w

/-- Insert each code point in turn, the smallest first. -/
def Writer.passCodes (label : List Char) (previous : Nat) (w : Writer) : List Nat → Writer
  | [] => w
  | code :: rest =>
    let start := { w with delta := w.delta + (code - previous) * (w.handled + 1) }
    let passed := label.foldl (Writer.pass code) start
    Writer.passCodes label (code + 1) { passed with delta := passed.delta + 1 } rest

def encode (label : List Char) : List Char :=
  let basic := label.filter Text.isAscii
  let codes := ((label.filter fun c => !Text.isAscii c).map Char.toNat).mergeSort.eraseDups
  let w := Writer.passCodes label 0x80 ⟨0, 72, basic.length, true, []⟩ codes
  basic ++ (if basic.isEmpty then [] else ['-']) ++ w.reversed.reverse

end Punycode

end RecordSchema
