import RecordSchema.Host.Idna

/-!
# E-mail addresses

A local part of a few ASCII signs before the last `@`, and a domain that is
fully qualified as written and well-formed in ASCII, or in its ASCII form.
-/

namespace RecordSchema

namespace Email

def isLocalChar (c : Char) : Bool :=
  c.isAlphanum || ".!#$%&'*+/=?^_\x60\x7b|\x7d~-".toList.contains c

def isLocalPart (cs : List Char) : Bool := !cs.isEmpty && cs.length ≤ 64 && cs.all isLocalChar

/-- 1 to 63 ASCII letters, digits and hyphens, with no hyphen at either end. -/
def isAsciiLabel (label : List Char) : Bool :=
  !label.isEmpty && label.length ≤ 63 && label.all (fun c => c.isAlphanum || c == '-')
    && label.head? != some '-' && label.getLast? != some '-'

def isAsciiDomain (cs : List Char) : Bool := (Text.splitOn '.' cs).all isAsciiLabel

def isAddress (cs : List Char) : Bool :=
  match Text.splitLast? '@' cs with
  | some (localPart, domain) =>
    isLocalPart localPart && domain.length ≤ 255
      && (isAsciiDomain domain || (Idna.toAscii? domain).any isAsciiDomain)
      && Host.isFullyQualified domain
  | none => false

end Email

end RecordSchema
