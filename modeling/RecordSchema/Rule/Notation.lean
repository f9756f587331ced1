import RecordSchema.Text.Split

/-!
# Fixed notations

Colours, hexadecimal numbers, hardware addresses, UUIDs and base64: texts of
ASCII characters in a fixed arrangement, with nothing before or after.
-/

namespace RecordSchema

namespace Notation

open Text

/-- An optional `#` and 3, 4, 6 or 8 hexadecimal digits. -/
def isHexColor (cs : List Char) : Bool :=
  let ds :=
    match cs with
    | '#' :: ds => ds
    | ds => ds
  [3, 4, 6, 8].contains ds.length && ds.all isHexDigit

/-- What follows `0x` or `0h`, in either case. -/
def afterHexPrefix? : List Char → Option (List Char)
  | '0' :: mark :: rest =>
    if mark == 'x' || mark == 'X' || mark == 'h' || mark == 'H' then some rest else none
  | _ => none

/-- Hexadecimal digits, optionally after a prefix. -/
def isHexadecimal (cs : List Char) : Bool :=
  let ds := (afterHexPrefix? cs).getD cs
  !ds.isEmpty && ds.all isHexDigit

def isHexGroup (length : Nat) (cs : List Char) : Bool := cs.length == length && cs.all isHexDigit

/-- Groups of hexadecimal digits of the given lengths. -/
def areHexGroups : List Nat → List (List Char) → Bool
  | [], [] => true
  | length :: lengths, part :: parts => isHexGroup length part && areHexGroups lengths parts
  | _, _ => false

/-- Six pairs of hexadecimal digits, all joined by `:` or all by `-`. -/
def isMacAddress (cs : List Char) : Bool :=
  [':', '-'].any fun mark => areHexGroups [2, 2, 2, 2, 2, 2] (splitOn mark cs)

def isUuidShape (cs : List Char) : Bool := areHexGroups [8, 4, 4, 4, 12] (splitOn '-' cs)

/-- Where a UUID holds its version and its variant. -/
def versionIndex : Nat := 14
def variantIndex : Nat := 19

def versionDigit (version : Nat) : Char := Char.ofNat ('0'.toNat + version)

/-- The variant digit that versions 4 and 5 prescribe. -/
def isVariantDigit (c : Char) : Bool := ['8', '9', 'a', 'b', 'A', 'B'].contains c

/-- The version of a UUID, when asked for, and for versions 4 and 5 the variant. -/
def isUuid (version : Option Nat) (cs : List Char) : Bool :=
  isUuidShape cs
    && match version with
      | none => true
      | some v =>
        cs[versionIndex]? == some (versionDigit v)
          && (!(v == 4 || v == 5) || cs[variantIndex]?.any isVariantDigit)

def isBase64Char (c : Char) : Bool := c.isAlphanum || c == '+' || c == '/'

/-- Quads of base64 characters; the last quad may end in one or two `=`. -/
def areBase64Quads : List Char → Bool
  | [] => true
  | a :: b :: c :: d :: rest =>
    isBase64Char a && isBase64Char b
      && if rest.isEmpty && d == '=' then c == '=' || isBase64Char c
        else isBase64Char c && isBase64Char d && areBase64Quads rest
  | _ => false

def isBase64 (cs : List Char) : Bool := !cs.isEmpty && areBase64Quads cs

/-- Texts of truth values. -/
def isBoolean (s : String) : Bool := ["true", "false", "1", "0"].contains s

end Notation

end RecordSchema
