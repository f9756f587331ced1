import RecordSchema.Text.Split
import RecordSchema.Unicode.Property

/-!
# Fully qualified names

Names of at least two labels under an alphabetic or `xn--` top level. One final
dot is allowed. Lengths of labels count characters, the length of a name bytes.
-/

namespace RecordSchema

namespace Host

def isLabelChar (c : Char) : Bool := c == '-' || Unicode.alphanumeric.contains c

def isLabel (label : List Char) : Bool :=
  !label.isEmpty && label.length ≤ 63 && label.head? != some '-' && label.getLast? != some '-'
    && label.all isLabelChar

/-- The prefix of labels in the ASCII form of other scripts, in either case. -/
def hasAcePrefix (label : List Char) : Bool := (label.take 4).map Char.toLower == ['x', 'n', '-', '-']

def isTopLevel (label : List Char) : Bool :=
  (2 ≤ label.length && label.all Unicode.alphabetic.contains)
    || (4 < Text.utf8Length label && hasAcePrefix label)

/-- The name without its final dot. -/
def dropFinalDot (cs : List Char) : List Char := if cs.getLast? = some '.' then cs.dropLast else cs

def isFullyQualified (cs : List Char) : Bool :=
  let name := dropFinalDot cs
  let labels := Text.splitOn '.' name
  !name.isEmpty && Text.utf8Length name ≤ 253 && 2 ≤ labels.length && labels.all isLabel
    && labels.getLast?.any isTopLevel

end Host

end RecordSchema
