import RecordSchema.Decimal

/-!
# Numeral formats

Three formats, each inside the next: whole numbers without leading zeros,
numerals that end in a digit, and texts of doubles. Digits are ASCII.
-/

namespace RecordSchema

namespace Numeral

open Decimal

/-- An optional sign, then `0` or digits that start with another one. -/
def isInt (cs : List Char) : Bool :=
  match (splitSign cs).2 with
  | ['0'] => true
  | ds => isDigits ds && ds.head? != some '0'

/-- An optional sign, optionally digits and a point, then at least one digit. -/
def isNumeric (cs : List Char) : Bool :=
  let body := (splitSign cs).2
  match body.dropWhile Char.isDigit with
  | [] => !body.isEmpty
  | '.' :: fraction => isDigits fraction
  | _ => false

def isExponentMark (c : Char) : Bool := c == 'e' || c == 'E'

/-- Nothing, or an exponent mark, an optional sign and digits. -/
def isExponent : List Char → Bool
  | [] => true
  | mark :: rest => isExponentMark mark && isDigits (splitSign rest).2

/-- An optional sign, digits, a point with digits, and an exponent. All of it may be missing. -/
def hasFloatShape (cs : List Char) : Bool :=
  match (splitSign cs).2.dropWhile Char.isDigit with
  | '.' :: rest => isExponent (rest.dropWhile Char.isDigit)
  | rest => isExponent rest

/-- What precedes the first exponent mark. -/
def beforeExponent (cs : List Char) : List Char := cs.takeWhile fun c => !isExponentMark c

/-- The shape of a float, and a digit before its exponent. -/
def isFloat (cs : List Char) : Bool := hasFloatShape cs && (beforeExponent cs).any Char.isDigit

end Numeral

end RecordSchema
