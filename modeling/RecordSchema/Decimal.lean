import RecordSchema.Binary64

/-!
# Decimal numerals

Parts that numerals of every format share: the value of a digit string, an
exponent part, and the texts of doubles that are read outside documents.
-/

namespace RecordSchema

namespace Decimal

def digitsValue (ds : List Char) : Nat := ds.foldl (fun n d => 10 * n + (d.toNat - '0'.toNat)) 0

/-- Some digits and nothing else. -/
def isDigits (cs : List Char) : Bool := !cs.isEmpty && cs.all Char.isDigit

/-- An optional sign, split off. -/
def splitSign : List Char → Bool × List Char
  | '-' :: cs => (true, cs)
  | '+' :: cs => (false, cs)
  | cs => (false, cs)

/-- Nothing, or `e` or `E`, an optional sign, and digits. -/
def exponent? : List Char → Option Int
  | [] => some 0
  | mark :: rest =>
    let (negative, ds) := splitSign rest
    if (mark == 'e' || mark == 'E') && isDigits ds then
      some (if negative then -(digitsValue ds : Int) else digitsValue ds)
    else none

/-- Digits with a point anywhere, at least one digit, and an exponent part. -/
def unsignedDouble? (negative : Bool) (cs : List Char) : Option Binary64 :=
  let whole := cs.takeWhile Char.isDigit
  let rest := cs.dropWhile Char.isDigit
  let (fraction, rest) :=
    match rest with
    | '.' :: rest => (rest.takeWhile Char.isDigit, rest.dropWhile Char.isDigit)
    | rest => ([], rest)
  if whole.isEmpty && fraction.isEmpty then none
  else (exponent? rest).map fun e =>
    .ofDecimal negative (digitsValue (whole ++ fraction)) (e - fraction.length)

end Decimal

/-- The double that a text denotes: a numeral, or `inf`, `infinity` or `nan` in
any case, after an optional sign. A numeral out of range is infinite. -/
def Binary64.ofText? (text : String) : Option Binary64 :=
  let (negative, cs) := Decimal.splitSign text.toList
  let word := String.ofList (cs.map Char.toLower)
  if word == "inf" || word == "infinity" then some (.infinite negative)
  else if word == "nan" then some .nan
  else Decimal.unsignedDouble? negative cs

end RecordSchema
