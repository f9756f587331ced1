import RecordSchema.Decimal
import RecordSchema.Text.Split

/-!
# IP address texts

The texts of IPv4 and IPv6 addresses: four decimal octets without leading
zeros; eight groups of hexadecimal digits, of which `::` stands for one or more
and the last two may be written as an IPv4 address.
-/

namespace RecordSchema

namespace Ip

/-- A number up to 255 in decimal without leading zeros. -/
def isOctet (cs : List Char) : Bool :=
  Decimal.isDigits cs && cs.length ≤ 3 && (cs == ['0'] || cs.head? != some '0')
    && Decimal.digitsValue cs ≤ 255

def isV4 (cs : List Char) : Bool :=
  let parts := Text.splitOn '.' cs
  parts.length == 4 && parts.all isOctet

def isGroup (cs : List Char) : Bool := !cs.isEmpty && cs.length ≤ 4 && cs.all Text.isHexDigit

/-- The number of 16-bit groups that the parts stand for. -/
def groupCount? (v4Last : Bool) : List (List Char) → Option Nat
  | [] => some 0
  | [part] => if isGroup part then some 1 else if v4Last && isV4 part then some 2 else none
  | part :: rest => if isGroup part then (groupCount? v4Last rest).map (· + 1) else none

/-- The parts of a stretch without `::`; an empty stretch has none. -/
def stretchParts (cs : List Char) : List (List Char) :=
  if cs.isEmpty then [] else Text.splitOn ':' cs

/-- What stands before and after the first `::`. -/
def splitCompressed? : List Char → Option (List Char × List Char)
  | ':' :: ':' :: rest => some ([], rest)
  | c :: rest => (splitCompressed? rest).map fun (before, after) => (c :: before, after)
  | [] => none

def isV6 (cs : List Char) : Bool :=
  match splitCompressed? cs with
  | none => groupCount? true (stretchParts cs) == some 8
  | some (before, after) =>
    match groupCount? false (stretchParts before), groupCount? true (stretchParts after) with
    | some m, some n => m + n ≤ 7
    | _, _ => false

-- ---------------------------------------------------------------------------
-- Numbers in host names
-- ---------------------------------------------------------------------------

/-- A number as hosts of URLs write it: hexadecimal after `0x`, octal after `0`,
else decimal. `none` when it is no number. -/
def hostNumber? (cs : List Char) : Option Nat :=
  match cs with
  | [] => none
  | '0' :: x :: ds =>
    if x == 'x' || x == 'X' then
      if ds.all Text.isHexDigit then some (ds.foldl (fun n d => 16 * n + Text.hexDigitValue d) 0)
      else none
    else if (x :: ds).all (fun d => '0' ≤ d && d ≤ '7') then
      some ((x :: ds).foldl (fun n d => 8 * n + (d.toNat - '0'.toNat)) 0)
    else none
  | ds => if ds.all Char.isDigit then some (Decimal.digitsValue ds) else none

/-- The parts of a host, a final empty one left out. -/
def hostParts (cs : List Char) : List (List Char) :=
  let parts := Text.splitOn '.' cs
  if 1 < parts.length && parts.getLast? == some [] then parts.dropLast else parts

/-- The last part is a number, so the host can only be an IPv4 address. -/
def endsInNumber (cs : List Char) : Bool :=
  match (hostParts cs).getLast? with
  | some last => Decimal.isDigits last || (hostNumber? last).isSome
  | none => false

/-- At most four numbers, of which all but the last are octets and the last
fills the bytes that remain. -/
def isV4Host (cs : List Char) : Bool :=
  let parts := hostParts cs
  match parts.mapM hostNumber? with
  | some numbers =>
    numbers.length ≤ 4 && numbers.dropLast.all (· ≤ 255)
      && numbers.getLast?.all (· < Nat.pow 256 (5 - numbers.length))
  | none => false

end Ip

end RecordSchema
