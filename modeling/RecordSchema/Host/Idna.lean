import RecordSchema.Host.Name
import RecordSchema.Host.Punycode
import RecordSchema.Unicode.Bidi
import RecordSchema.Unicode.Joining
import RecordSchema.Unicode.Normal

/-!
# International host names

The ASCII form of a host name: its characters are mapped and composed, each
label is checked, and labels of other scripts are written in Punycode. Hyphens
may stand anywhere and lengths are not limited.
-/

namespace RecordSchema

namespace Idna

open Unicode

-- ---------------------------------------------------------------------------
-- Mapping
-- ---------------------------------------------------------------------------

/-- Full stops of other scripts. -/
def isDot (n : Nat) : Bool := n == 0x3002 || n == 0xFF0E || n == 0xFF61

/-- Letters and joiners that stay although folding would change them. -/
def isKept (n : Nat) : Bool := n == 0xDF || n == 0x3C2 || n == 0x200C || n == 0x200D

/-- Characters without a place in names: separators, controls, what is not
assigned, and some fillers and description characters. -/
def disallowed : CharSet :=
  let invisible := CharSet.ofTable "AD 200B 2060 2064 FEFF 1BCA0-1BCA3"
  let signs := CharSet.ofTable "115F-1160 17B4-17B5 1806 2FF0-2FFF 3164 FFA0 FFFC-FFFD"
  (CharSet.unions [separator, other]).diff invisible |>.union signs

/-- The image of a character; `none` when it is not allowed. -/
def mapChar? (c : Char) : Option (List Char) :=
  let n := c.toNat
  if n < 0x80 then some [c.toLower]
  else if isDot n then some ['.']
  else if isKept n then some [c]
  else if n == 0x1E9E then some ['ß']
  else if disallowed.contains c then none
  else
    let image := nfkcCasefold n
    if image.any fun m => m == '.'.toNat || isDot m then none else some (image.map Char.ofNat)

def compose (cs : List Char) : List Char := (nfc (cs.map Char.toNat)).map Char.ofNat

-- ---------------------------------------------------------------------------
-- Labels
-- ---------------------------------------------------------------------------

/-- Every character stands for itself. -/
def isStable (c : Char) : Bool := mapChar? c == some [c]

/-- Between a letter that joins on its left and one that joins on its right. -/
def joinsAround (reversedBefore after : List Char) : Bool :=
  let skip (cs : List Char) := cs.dropWhile fun c => joiningType? c == some .transparent
  let left := (skip reversedBefore).head?.bind joiningType?
  let right := (skip after).head?.bind joiningType?
  (left == some .left || left == some .dual) && (right == some .right || right == some .dual)

/-- A joiner follows a virama; a non-joiner may also stand inside a cursive join. -/
def joinersFit (reversedBefore : List Char) : List Char → Bool
  | [] => true
  | c :: rest =>
    let afterVirama := reversedBefore.head?.any fun p => combiningClass p.toNat == 9
    (if c.toNat == 0x200D then afterVirama
      else if c.toNat == 0x200C then afterVirama || joinsAround reversedBefore rest
      else true)
      && joinersFit (c :: reversedBefore) rest

def isRightToLeft : BidiClass → Bool
  | .rightToLeft | .arabicLetter => true
  | _ => false

/-- A character of this class makes the whole name bidirectional. -/
def isBidiMarker : BidiClass → Bool
  | .rightToLeft | .arabicLetter | .arabicNumber => true
  | _ => false

/-- Neutral classes, which both directions admit. -/
def isNeutral : BidiClass → Bool
  | .europeanSeparator | .commonSeparator | .europeanTerminator | .otherNeutral
  | .boundaryNeutral | .nonspacing => true
  | _ => false

/-- The directions within a label of a bidirectional name. -/
def isBidiLabel (label : List Char) : Bool :=
  let classes := label.map bidiClass
  let last := (classes.reverse.dropWhile (· == .nonspacing)).head?
  match classes.head? with
  | none => true
  | some .leftToRight =>
    classes.all (fun k => k == .leftToRight || k == .europeanNumber || isNeutral k)
      && last.any fun k => k == .leftToRight || k == .europeanNumber
  | some first =>
    isRightToLeft first
      && classes.all (fun k =>
        isRightToLeft k || k == .arabicNumber || k == .europeanNumber || isNeutral k)
      && last.any (fun k => isRightToLeft k || k == .arabicNumber || k == .europeanNumber)
      && !(classes.contains .arabicNumber && classes.contains .europeanNumber)

/-- The label in its own script; a label in ASCII form must stand for a composed
one that no mapping changes. -/
def readLabel? (label : List Char) : Option (List Char) :=
  if Host.hasAcePrefix label then do
    let decoded ← Punycode.decode? (label.drop 4)
    if decoded.all Text.isAscii || !decoded.all isStable || compose decoded != decoded
        || Host.hasAcePrefix decoded then none
    else some decoded
  else some label

def isValidLabel (bidi : Bool) (label : List Char) : Bool :=
  !label.head?.any mark.contains && joinersFit [] label && (!bidi || isBidiLabel label)

def writeLabel (label : List Char) : List Char :=
  if label.all Text.isAscii then label else ['x', 'n', '-', '-'] ++ Punycode.encode label

/-- The ASCII form of a name; `none` when it is not a valid name. -/
def toAscii? (name : List Char) : Option (List Char) := do
  let mapped ← name.mapM mapChar?
  let labels ← (Text.splitOn '.' (compose mapped.flatten)).mapM readLabel?
  let bidi := labels.any fun label => label.any fun c => isBidiMarker (bidiClass c)
  if labels.all (isValidLabel bidi) then
    some ((labels.map writeLabel).intersperse ['.']).flatten
  else none

end Idna

end RecordSchema
