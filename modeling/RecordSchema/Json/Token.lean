import RecordSchema.Decimal
import RecordSchema.Json.Number
import RecordSchema.Text.Split

/-!
# Tokens of document text

One pass over the characters, a mode at a time: between tokens, inside a word,
a numeral or a quoted text. White space is the four characters of the format.
-/

namespace RecordSchema

namespace Json

/-- A part of a quoted text: a character, or a 16-bit unit written `\uXXXX`. -/
inductive Piece where
  | char (c : Char)
  | unit (n : Nat)
  deriving DecidableEq

def isHighSurrogate (n : Nat) : Bool := 0xD800 ≤ n && n < 0xDC00

def isLowSurrogate (n : Nat) : Bool := 0xDC00 ≤ n && n < 0xE000

/-- The text of the pieces; a surrogate unit without its partner has none. -/
def decodePieces : List Piece → Option (List Char)
  | [] => some []
  | .char c :: rest => (decodePieces rest).map (c :: ·)
  | .unit high :: .unit low :: rest =>
    if isHighSurrogate high then
      if isLowSurrogate low then
        let c := Char.ofNat (0x10000 + (high - 0xD800) * 0x400 + (low - 0xDC00))
        (decodePieces rest).map (c :: ·)
      else none
    else if isLowSurrogate high then none
    else (decodePieces (.unit low :: rest)).map (Char.ofNat high :: ·)
  | .unit n :: rest =>
    if isHighSurrogate n || isLowSurrogate n then none
    else (decodePieces rest).map (Char.ofNat n :: ·)

/-- A numeral as written, in its parts. -/
structure Numeral where
  negative : Bool
  digits : List Char
  fraction : List Char
  exponent : Option Int
  deriving DecidableEq

namespace Numeral

def unsigned? (negative : Bool) (cs : List Char) : Option Numeral :=
  let digits := cs.takeWhile Char.isDigit
  let rest := cs.dropWhile Char.isDigit
  if digits.isEmpty || (digits.head? == some '0' && 1 < digits.length) then none
  else
    match rest with
    | '.' :: rest =>
      let fraction := rest.takeWhile Char.isDigit
      if fraction.isEmpty then none
      else (exponent? (rest.dropWhile Char.isDigit)).map fun e => ⟨negative, digits, fraction, e⟩
    | rest => (exponent? rest).map fun e => ⟨negative, digits, [], e⟩
where
  exponent? : List Char → Option (Option Int)
    | [] => some none
    | cs => (Decimal.exponent? cs).map some

def ofChars? : List Char → Option Numeral
  | '-' :: cs => unsigned? true cs
  | cs => unsigned? false cs

/-- A whole numeral: neither a fraction nor an exponent is written. -/
def isWhole (n : Numeral) : Bool := n.fraction.isEmpty && n.exponent.isNone

/-- Append digits to a number for as long as it fits 64 bits; the others are left. -/
def absorb (value : Nat) : List Char → Nat × List Char
  | [] => (value, [])
  | d :: ds =>
    let longer := 10 * value + Decimal.digitsValue [d]
    if longer < 0x10000000000000000 then absorb longer ds else (value, d :: ds)

/-- The leading digits that fit 64 bits, and the power of ten that they count.
Digits of the fraction that do not fit are dropped. -/
def significand (n : Numeral) : Nat × Int :=
  let (whole, wholeLeft) := absorb 0 n.digits
  let (all, fractionLeft) := absorb whole n.fraction
  (all, wholeLeft.length - (n.fraction.length - fractionLeft.length : Nat))

/-- The double of a numeral; none beyond the largest one. -/
def toFinite? (n : Numeral) : Option Binary64.Finite :=
  let (value, scale) := n.significand
  (Binary64.ofScaled n.negative value (scale + n.exponent.getD 0)).finite?

/-- The integer of a whole numeral that fits 64 bits; `-0` is not one. -/
def toInteger? (n : Numeral) : Option Number :=
  let value := Decimal.digitsValue n.digits
  if n.isWhole && !(n.negative && value == 0) then
    Number.ofInt? (if n.negative then -(value : Int) else value)
  else none

def toNumber? (n : Numeral) : Option Number := n.toInteger?.or (n.toFinite?.map .float)

end Numeral

inductive Token where
  | openArray
  | closeArray
  | openObject
  | closeObject
  | comma
  | colon
  | null
  | bool (b : Bool)
  | numeral (n : Numeral)
  | quoted (pieces : List Piece)
  deriving DecidableEq

namespace Token

inductive Mode where
  | between
  | word (reversed : List Char)
  | numeral (reversed : List Char)
  | quoted (reversed : List Piece)
  | escape (reversed : List Piece)
  | hex (reversed : List Piece) (digits value : Nat)

def isWordChar (c : Char) : Bool := 'a' ≤ c && c ≤ 'z'

def isNumeralChar (c : Char) : Bool :=
  c.isDigit || c == '-' || c == '+' || c == '.' || c == 'e' || c == 'E'

def word? : List Char → Option Token
  | ['n', 'u', 'l', 'l'] => some .null
  | ['t', 'r', 'u', 'e'] => some (.bool true)
  | ['f', 'a', 'l', 's', 'e'] => some (.bool false)
  | _ => none

def hexValue? (c : Char) : Option Nat := if Text.isHexDigit c then some (Text.hexDigitValue c) else none

def unescape? : Char → Option Char
  | '"' => some '"'
  | '\\' => some '\\'
  | '/' => some '/'
  | 'b' => some '\x08'
  | 'f' => some '\x0c'
  | 'n' => some '\n'
  | 'r' => some '\r'
  | 't' => some '\t'
  | _ => none

/-- What a character begins when no token is open. -/
def start (c : Char) : Option (List Token × Mode) :=
  match c with
  | '[' => some ([.openArray], .between)
  | ']' => some ([.closeArray], .between)
  | '\x7b' => some ([.openObject], .between)
  | '\x7d' => some ([.closeObject], .between)
  | ',' => some ([.comma], .between)
  | ':' => some ([.colon], .between)
  | ' ' | '\t' | '\n' | '\r' => some ([], .between)
  | '"' => some ([], .quoted [])
  | c =>
    if c.isDigit || c == '-' then some ([], .numeral [c])
    else if isWordChar c then some ([], .word [c])
    else none

/-- The token that ends here, if one is open and complete. -/
def finish : Mode → Option (List Token)
  | .between => some []
  | .word reversed => (word? reversed.reverse).map ([·])
  | .numeral reversed => (Numeral.ofChars? reversed.reverse).map fun n => [.numeral n]
  | _ => none

/-- End the open token, then begin with this character. -/
def restart (mode : Mode) (c : Char) : Option (List Token × Mode) := do
  let ended ← finish mode
  let (begun, next) ← start c
  some (ended ++ begun, next)

def next (mode : Mode) (c : Char) : Option (List Token × Mode) :=
  match mode with
  | .between => start c
  | .word reversed => if isWordChar c then some ([], .word (c :: reversed)) else restart mode c
  | .numeral reversed =>
    if isNumeralChar c then some ([], .numeral (c :: reversed)) else restart mode c
  | .quoted reversed =>
    if c == '"' then some ([.quoted reversed.reverse], .between)
    else if c == '\\' then some ([], .escape reversed)
    else if c.toNat < 0x20 then none
    else some ([], .quoted (.char c :: reversed))
  | .escape reversed =>
    if c == 'u' then some ([], .hex reversed 0 0)
    else (unescape? c).map fun d => ([], .quoted (.char d :: reversed))
  | .hex reversed digits value =>
    (hexValue? c).map fun d =>
      let value := 16 * value + d
      if digits = 3 then ([], .quoted (.unit value :: reversed))
      else ([], .hex reversed (digits + 1) value)

def scan (mode : Mode) (reversed : List Token) : List Char → Option (List Token)
  | [] => (finish mode).map fun last => (last.reverse ++ reversed).reverse
  | c :: rest =>
    match next mode c with
    | some (tokens, mode) => scan mode (tokens.reverse ++ reversed) rest
    | none => none

def ofText? (text : String) : Option (List Token) := scan .between [] text.toList

end Token

end Json

end RecordSchema
