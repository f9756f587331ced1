import RecordSchema.Decimal
import RecordSchema.Pattern
import RecordSchema.Pattern.Property
import RecordSchema.Text.Blank
import RecordSchema.Unicode.Folding

/-!
# Escapes in patterns

What follows a backslash: a character, a class of characters or a condition.
In verbose mode blanks and comments between the parts of an escape are skipped.
-/

namespace RecordSchema

namespace Pattern

open Unicode

/-- The flags in force. Greed is not among them: it does not change whether a
pattern matches. -/
structure Flags where
  ignoreCase : Bool
  multiLine : Bool
  dotAll : Bool
  anyLineEnd : Bool
  unicode : Bool
  verbose : Bool

def Flags.initial : Flags := ⟨false, false, false, false, true, false⟩

-- ---------------------------------------------------------------------------
-- Blanks
-- ---------------------------------------------------------------------------

/-- Skip blanks, and comments from `#` to the end of the line. -/
def skipFrom (comment : Bool) : List Char → List Char
  | [] => []
  | c :: rest =>
    if comment then skipFrom (c != '\n') rest
    else if Text.isBlank c then skipFrom false rest
    else if c == '#' then skipFrom true rest
    else c :: rest

theorem length_skipFrom_le (comment : Bool) (cs : List Char) :
    (skipFrom comment cs).length ≤ cs.length := by
  induction cs generalizing comment with
  | nil => simp [skipFrom]
  | cons c rest ih =>
    simp only [skipFrom]
    split
    · exact Nat.le_succ_of_le (ih _)
    · split
      · exact Nat.le_succ_of_le (ih _)
      · split
        · exact Nat.le_succ_of_le (ih _)
        · exact Nat.le_refl _

def skip (verbose : Bool) (cs : List Char) : List Char := if verbose then skipFrom false cs else cs

theorem length_skip_le (verbose : Bool) (cs : List Char) : (skip verbose cs).length ≤ cs.length := by
  unfold skip
  split
  · exact length_skipFrom_le false cs
  · exact Nat.le_refl _

/-- The characters that pass, with what may be skipped between them. -/
def collect (verbose : Bool) (pass : Char → Bool) : List Char → List Char × List Char
  | [] => ([], [])
  | c :: rest =>
    if pass c then
      let (got, after) := collect verbose pass (skip verbose rest)
      (c :: got, after)
    else ([], c :: rest)
termination_by cs => cs.length
decreasing_by exact Nat.lt_succ_of_le (length_skip_le verbose rest)

-- ---------------------------------------------------------------------------
-- Folding
-- ---------------------------------------------------------------------------

/-- The set with the other case of its ASCII letters. -/
def asciiFoldClosure (s : CharSet) : CharSet :=
  let other (n : Nat) : Option Nat :=
    if s.containsCode (0x41 + n) then some (0x61 + n)
    else if s.containsCode (0x61 + n) then some (0x41 + n)
    else none
  s.union (.ofRanges (((List.range 26).filterMap other).map fun n => (n, n)))

def Flags.fold (flags : Flags) (s : CharSet) : CharSet :=
  if !flags.ignoreCase then s
  else if flags.unicode then s.foldClosure
  else asciiFoldClosure s

/-- Without Unicode, a class holds ASCII characters only. -/
def Flags.admits (flags : Flags) (s : CharSet) : Bool :=
  flags.unicode || (s.diff asciiSet).isEmpty

-- ---------------------------------------------------------------------------
-- Atoms
-- ---------------------------------------------------------------------------

inductive Atom where
  /-- A character; `byteForm` when it was written with two hexadecimal digits. -/
  | literal (c : Char) (byteForm : Bool)
  | set (s : CharSet)
  | look (l : Look)

def scalar? (ds : List Char) : Option Char :=
  let n := ds.foldl (fun n d => 16 * n + Text.hexDigitValue d) 0
  if ds.isEmpty then none else if n.isValidChar then some (Char.ofNat n) else none

def takeHex (verbose : Bool) : Nat → List Char → Option (List Char × List Char)
  | 0, cs => some ([], cs)
  | n + 1, c :: rest =>
    if Text.isHexDigit c then
      (takeHex verbose n (skip verbose rest)).map fun (ds, after) => (c :: ds, after)
    else none
  | _ + 1, [] => none

/-- A character by its number: so many digits, or any number of them in braces. -/
def hexLiteral? (verbose : Bool) (digits : Nat) (cs : List Char) : Option (Atom × List Char) :=
  match skip verbose cs with
  | '\x7b' :: rest =>
    match collect verbose Text.isHexDigit (skip verbose rest) with
    | (ds, '\x7d' :: after) => (scalar? ds).map fun c => (.literal c false, skip verbose after)
    | _ => none
  | cs => do
    let (ds, after) ← takeHex verbose digits cs
    let c ← scalar? ds
    some (.literal c (digits == 2), after)

/-- A property by one letter, or by a text in braces. -/
def propertyAtom? (flags : Flags) (negated : Bool) (cs : List Char) : Option (Atom × List Char) :=
  if !flags.unicode then none
  else
    let finish (found : CharSet) : Atom :=
      let folded := flags.fold found
      .set (if negated then folded.complement else folded)
    match skip flags.verbose cs with
    | [] => none
    | '\x7b' :: rest =>
      match collect flags.verbose (· != '\x7d') (skip flags.verbose rest) with
      | (text, _ :: after) => (braceSet? text).map fun found => (finish found, after)
      | _ => none
    | c :: rest =>
      if c == '\\' then none
      else (propertySet? [c]).map fun s => (finish s, skip flags.verbose rest)

/-- The word conditions with a name in braces. Anything in braces that cannot
be a name is left for a repetition. -/
def boundary? (flags : Flags) (cs : List Char) : Option (Atom × List Char) :=
  let plain : Option (Atom × List Char) := some (.look (.wordBoundary !flags.unicode), cs)
  let isNameChar (c : Char) : Bool := c.isAlpha || c == '-'
  match cs with
  | '\x7b' :: rest =>
    match skip flags.verbose rest with
    | [] => none
    | c :: rest =>
      if isNameChar c then
        match collect flags.verbose isNameChar (c :: rest) with
        | (name, '\x7d' :: after) =>
          let ascii := !flags.unicode
          match String.ofList name with
          | "start" => some (.look (.wordStart ascii), after)
          | "end" => some (.look (.wordEnd ascii), after)
          | "start-half" => some (.look (.wordStartHalf ascii), after)
          | "end-half" => some (.look (.wordEndHalf ascii), after)
          | _ => none
        | _ => none
      else plain
  | _ => plain

/-- ASCII signs and controls stand for themselves after a backslash. -/
def isEscapable (c : Char) : Bool :=
  c.toNat < 0x80 && !c.isAlphanum && c != '<' && c != '>'

/-- The atom of an escape; the text starts after the backslash. -/
def escape? (flags : Flags) : List Char → Option (Atom × List Char)
  | [] => none
  | c :: rest =>
    let literal (d : Char) : Option (Atom × List Char) := some (.literal d false, rest)
    let look (l : Look) : Option (Atom × List Char) := some (.look l, rest)
    match c with
    | 'x' => hexLiteral? flags.verbose 2 rest
    | 'u' => hexLiteral? flags.verbose 4 rest
    | 'U' => hexLiteral? flags.verbose 8 rest
    | 'p' => propertyAtom? flags false rest
    | 'P' => propertyAtom? flags true rest
    | 'd' | 's' | 'w' => (shorthandSet? (!flags.unicode) c).map fun s => (.set s, rest)
    | 'D' | 'S' | 'W' =>
      if flags.unicode then
        (shorthandSet? false c.toLower).map fun s => (.set s.complement, rest)
      else none
    | 'a' => literal '\x07'
    | 'f' => literal '\x0c'
    | 't' => literal '\t'
    | 'n' => literal '\n'
    | 'r' => literal '\r'
    | 'v' => literal '\x0b'
    | 'A' => look .textStart
    | 'z' => look .textEnd
    | 'b' => boundary? flags rest
    | 'B' => look (.notWordBoundary !flags.unicode)
    | '<' => look (.wordStart !flags.unicode)
    | '>' => look (.wordEnd !flags.unicode)
    | c => if isEscapable c then literal c else none

/-- The characters of a literal, with its other cases. Without Unicode, a byte
beyond ASCII is no character. -/
def literalSet? (flags : Flags) (c : Char) (byteForm : Bool) : Option CharSet :=
  if !flags.unicode && byteForm && !Text.isAscii c then none
  else some (flags.fold (.single c))

end Pattern

end RecordSchema
