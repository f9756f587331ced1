import RecordSchema.Binary64.Digits

/-!
# Numbers of documents

A number is an integer of at most 64 bits, signed or unsigned, or a finite
double. The two kinds never compare equal with `==`; whether they denote the
same number is a question of `toBinary64` and belongs to allow-lists.
-/

namespace RecordSchema

/-- Integers from `-2⁶³` to `2⁶⁴ - 1`. -/
def Int64Or (n : Int) : Prop := -0x8000000000000000 ≤ n ∧ n < 0x10000000000000000

instance (n : Int) : Decidable (Int64Or n) := by
  unfold Int64Or
  infer_instance

inductive Number where
  | integer (n : Int) (inRange : Int64Or n)
  | float (x : Binary64.Finite)
  deriving DecidableEq

namespace Number

protected def beq : Number → Number → Bool
  | .integer a _, .integer b _ => a == b
  | .float x, .float y => x == y
  | _, _ => false

instance : BEq Number := ⟨Number.beq⟩

def ofInt? (n : Int) : Option Number :=
  if h : Int64Or n then some (.integer n h) else none

/-- The integer as a signed 64-bit word, when it is one. -/
def toSigned? : Number → Option Int
  | .integer n _ => if n < 0x8000000000000000 then some n else none
  | .float _ => none

/-- The integer as an unsigned 64-bit word, when it is one. -/
def toUnsigned? : Number → Option Nat
  | .integer n _ => if 0 ≤ n then some n.toNat else none
  | .float _ => none

/-- The nearest double. -/
def toBinary64 : Number → Binary64
  | .integer n _ => .ofInt n
  | .float x => .finite x

def text : Number → String
  | .integer n _ => signText (n < 0) ++ Nat.repr n.natAbs
  | .float x => x.numberText
where
  signText (negative : Bool) : String := if negative then "-" else ""

end Number

end RecordSchema
