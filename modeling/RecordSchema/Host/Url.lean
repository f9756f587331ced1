import RecordSchema.Host.Idna
import RecordSchema.Host.Ip
import RecordSchema.Text.Blank

/-!
# Web addresses

Texts of the schemes http, https and ftp, and the host that they name. A host
is an address in brackets, an IPv4 address in any of its notations, or a name,
which is judged in its ASCII form. Backslashes count as slashes.
-/

namespace RecordSchema

namespace Url

/-- The text after one of the prefixes. -/
def afterScheme? (cs : List Char) : Option (List Char) :=
  ["http://", "https://", "ftp://"].findSome? fun s =>
    if s.toList.isPrefixOf cs then some (cs.drop s.length) else none

/-- No white space, a plausible first character, and at least two characters.
The second one may be blank, but no line feed. -/
def hasPlainShape : List Char → Bool
  | first :: second :: rest =>
    !Text.isBlank first && !"/$.?#".toList.contains first && second != '\n'
      && !rest.any Text.isBlank
  | _ => false

def isSlash (c : Char) : Bool := c == '/' || c == '\\'

/-- What ends the user, host and port part. -/
def endsAuthority (c : Char) : Bool := isSlash c || c == '?' || c == '#'

/-- The host and what follows it: up to a colon outside brackets. -/
def splitPort (bracketed : Bool) : List Char → List Char × List Char
  | [] => ([], [])
  | c :: rest =>
    if c == ':' && !bracketed then ([], c :: rest)
    else
      let bracketed := if c == '[' then true else if c == ']' then false else bracketed
      let (host, port) := splitPort bracketed rest
      (c :: host, port)

/-- Nothing, or a colon and a number of at most 16 bits, which may be left out. -/
def isPort : List Char → Bool
  | [] => true
  | _ :: ds => ds.all Char.isDigit && Decimal.digitsValue ds < 0x10000

-- ---------------------------------------------------------------------------
-- Percent encoding
-- ---------------------------------------------------------------------------

def percentDecode : List Char → List UInt8
  | '%' :: a :: b :: rest =>
    if Text.isHexDigit a && Text.isHexDigit b then
      UInt8.ofNat (16 * Text.hexDigitValue a + Text.hexDigitValue b) :: percentDecode rest
    else (String.singleton '%').toUTF8.toList ++ percentDecode (a :: b :: rest)
  | c :: rest => (String.singleton c).toUTF8.toList ++ percentDecode rest
  | [] => []

-- ---------------------------------------------------------------------------
-- Hosts
-- ---------------------------------------------------------------------------

inductive Host where
  | name (ascii : List Char)
  | v4
  | v6

/-- ASCII characters that no host name holds. -/
def isForbidden (c : Char) : Bool :=
  c.toNat < 0x21 || c.toNat == 0x7F || "#/:<>?@[\\]^|%".toList.contains c

def Host.ofChars? (cs : List Char) : Option Host :=
  match cs with
  | [] => none
  | '[' :: rest =>
    if rest.getLast? == some ']' && Ip.isV6 rest.dropLast then some .v6 else none
  | cs => do
    let decoded ← String.fromUTF8? ⟨(percentDecode cs).toArray⟩
    let ascii ← Idna.toAscii? decoded.toList
    if ascii.isEmpty || ascii.any isForbidden then none
    else if Ip.endsInNumber ascii then (if Ip.isV4Host ascii then some .v4 else none)
    else some (.name ascii)

/-- The host of the text after the scheme, when the text is an address. -/
def hostOf? (afterScheme : List Char) : Option Host :=
  let authority := (afterScheme.dropWhile isSlash).takeWhile fun c => !endsAuthority c
  let afterUser :=
    match Text.splitLast? '@' authority with
    | some (_, rest) => rest
    | none => authority
  let (host, port) := splitPort false afterUser
  if isPort port then Host.ofChars? host else none

/-- Trailing controls and spaces, and line ends anywhere, are not part of the address. -/
def strip (cs : List Char) : List Char :=
  (cs.reverse.dropWhile fun c => c.toNat ≤ 0x20).reverse.filter fun c =>
    !(c == '\t' || c == '\n' || c == '\r')

def isAddress (cs : List Char) : Bool :=
  match afterScheme? cs with
  | some rest =>
    hasPlainShape rest
      && match hostOf? (strip rest) with
        | some (.name ascii) => RecordSchema.Host.isFullyQualified ascii
        | some _ => true
        | none => false
  | none => false

end Url

end RecordSchema
