import RecordSchema.Pattern.Bracket

/-!
# Reading patterns

One pass with a stack of open groups. Flags hold to the end of the group in
which they are set. There is no look-around and there are no references to
groups, so a pattern is a set of texts.
-/

namespace RecordSchema

namespace Pattern

-- ---------------------------------------------------------------------------
-- Flags
-- ---------------------------------------------------------------------------

def Flags.set? (flags : Flags) (value : Bool) : Char → Option Flags
  | 'i' => some { flags with ignoreCase := value }
  | 'm' => some { flags with multiLine := value }
  | 's' => some { flags with dotAll := value }
  | 'R' => some { flags with anyLineEnd := value }
  | 'u' => some { flags with unicode := value }
  | 'x' => some { flags with verbose := value }
  -- greed
  | 'U' => some flags
  | _ => none

/-- Letters set flags, and clear them after a hyphen. No letter comes twice, and
the hyphen is followed by one. -/
def Flags.change? (flags : Flags) (value : Bool) : List Char → Option Flags
  | [] => some flags
  | ['-'] => none
  | '-' :: rest => if value then flags.change? false rest else none
  | c :: rest => do (← flags.set? value c).change? value rest

def changeFlags? (flags : Flags) (letters : List Char) : Option Flags :=
  if letters.eraseDups.length == letters.length then flags.change? true letters else none

-- ---------------------------------------------------------------------------
-- Repetition counts
-- ---------------------------------------------------------------------------

/-- A number of at most 32 bits; `none` without digits, and the text after it. -/
def count? (verbose : Bool) (cs : List Char) : Option (Option Nat × List Char) :=
  let (ds, after) := collect verbose Char.isDigit (cs.dropWhile Text.isBlank)
  let after := after.dropWhile Text.isBlank
  if ds.isEmpty then some (none, after)
  else
    let n := Decimal.digitsValue ds
    if n < 0x100000000 then some (some n, after) else none

/-- The bounds of a counted repetition; the text starts after the brace. -/
def bounds? (verbose : Bool) (cs : List Char) : Option (Nat × Option Nat × List Char) := do
  let (low, cs) ← count? verbose (skip verbose cs)
  let min ← low
  match cs with
  | '\x7d' :: after => some (min, some min, skip verbose after)
  | ',' :: rest =>
    match skip verbose rest with
    | '\x7d' :: after => some (min, none, skip verbose after)
    | rest => do
      let (high, cs) ← count? verbose rest
      let max ← high
      match cs with
      | '\x7d' :: after => if min ≤ max then some (min, some max, skip verbose after) else none
      | _ => none
  | _ => none

/-- Repetitions may ask for the fewest matches first. -/
def dropLazy : List Char → List Char
  | '?' :: rest => rest
  | cs => cs

-- ---------------------------------------------------------------------------
-- Group names
-- ---------------------------------------------------------------------------

def isNameStart (c : Char) : Bool := c == '_' || Unicode.alphabetic.contains c

def isNamePart (c : Char) : Bool :=
  c == '_' || c == '.' || c == '[' || c == ']' || Unicode.alphanumeric.contains c

/-- A name that ends at `>`. -/
def groupName? (cs : List Char) : Option (List Char × List Char) :=
  match cs.takeWhile (· != '>'), cs.dropWhile (· != '>') with
  | first :: rest, _ :: after =>
    if isNameStart first && rest.all isNamePart then some (first :: rest, after) else none
  | _, _ => none

-- ---------------------------------------------------------------------------
-- The machine
-- ---------------------------------------------------------------------------

/-- What an open group interrupts: the parts and choices before it, and the flags. -/
structure Scope where
  parts : List Pattern
  choices : List Pattern
  flags : Flags
  capturing : Bool

/-- Parts and choices are in reverse. A part `empty` is a change of flags. -/
structure Reader where
  flags : Flags
  parts : List Pattern
  choices : List Pattern
  scopes : List Scope
  names : List (List Char)

namespace Reader

def push (r : Reader) (p : Pattern) : Reader := { r with parts := p :: r.parts }

def closeChoice (r : Reader) : Pattern := .ofParts r.parts.reverse

def closeBody (r : Reader) : Pattern := .ofChoices (r.closeChoice :: r.choices).reverse

def openGroup (r : Reader) (capturing : Bool) (flags : Flags) : Reader :=
  { r with
    flags
    parts := []
    choices := []
    scopes := ⟨r.parts, r.choices, r.flags, capturing⟩ :: r.scopes }

def closeGroup? (r : Reader) : Option Reader :=
  match r.scopes with
  | [] => none
  | scope :: scopes =>
    some { r with
      flags := scope.flags
      parts := .group scope.capturing r.closeBody :: scope.parts
      choices := scope.choices
      scopes }

/-- Repeat the last part; a change of flags cannot be repeated. -/
def repeatLast? (r : Reader) (min : Nat) (max : Option Nat) : Option Reader :=
  match r.parts with
  | [] | .empty :: _ => none
  | part :: parts => some { r with parts := .repeated part min max :: parts }

/-- A named group opens with a name of its own. -/
def openNamed? (r : Reader) (cs : List Char) : Option (Reader × List Char) := do
  let (name, after) ← groupName? cs
  if r.names.contains name then none
  else some ({ r.openGroup true r.flags with names := name :: r.names }, after)

/-- What an opening parenthesis begins; the text starts after it. -/
def group? (r : Reader) (cs : List Char) : Option (Reader × List Char) :=
  match skip r.flags.verbose cs with
  | '?' :: 'P' :: '<' :: rest => r.openNamed? rest
  | '?' :: '<' :: rest => r.openNamed? rest
  | '?' :: rest =>
    let isEnd (c : Char) : Bool := c == ':' || c == ')'
    let letters := rest.takeWhile fun c => !isEnd c
    match changeFlags? r.flags letters, rest.dropWhile fun c => !isEnd c with
    | some flags, ':' :: after => some (r.openGroup false flags, after)
    | some flags, ')' :: after =>
      if letters.isEmpty then none else some ({ r with flags }.push .empty, after)
    | _, _ => none
  | cs => some (r.openGroup true r.flags, cs)

def atom? (r : Reader) : Atom → Option Reader
  | .literal c byteForm => (literalSet? r.flags c byteForm).map fun s => r.push (.char s 0)
  | .set s => some (r.push (.char s 0))
  | .look l => some (r.push (.look l))

/-- Any character but a line end, or any at all. -/
def dot? (r : Reader) : Option Reader :=
  if !r.flags.unicode then none
  else
    let excluded : Unicode.CharSet :=
      if r.flags.dotAll then .empty
      else if r.flags.anyLineEnd then .ofTable "A D"
      else .single '\n'
    some (r.push (.char excluded.complement 0))

def startLook (flags : Flags) : Look :=
  if !flags.multiLine then .textStart else if flags.anyLineEnd then .anyLineStart else .lineStart

def endLook (flags : Flags) : Look :=
  if !flags.multiLine then .textEnd else if flags.anyLineEnd then .anyLineEnd else .lineEnd

/-- Take the next construction from a text without leading blanks. -/
def step (r : Reader) : List Char → Option (Reader × List Char)
  | [] => none
  | c :: rest =>
    match c with
    | '(' => r.group? rest
    | ')' => r.closeGroup?.map (·, rest)
    | '|' => some ({ r with parts := [], choices := r.closeChoice :: r.choices }, rest)
    | '[' => (bracketClass? r.flags rest).map fun (set, levels, after) =>
        (r.push (.char set levels), after)
    | '?' => (r.repeatLast? 0 (some 1)).map (·, dropLazy rest)
    | '*' => (r.repeatLast? 0 none).map (·, dropLazy rest)
    | '+' => (r.repeatLast? 1 none).map (·, dropLazy rest)
    | '\x7b' => do
      let (min, max, after) ← bounds? r.flags.verbose rest
      let next ← r.repeatLast? min max
      some (next, dropLazy after)
    | '\\' => do
      let (atom, after) ← escape? r.flags rest
      some (← r.atom? atom, after)
    | '.' => r.dot?.map (·, rest)
    | '^' => some (r.push (.look (startLook r.flags)), rest)
    | '$' => some (r.push (.look (endLook r.flags)), rest)
    | c => (r.atom? (.literal c false)).map (·, rest)

/-- Each round takes at least one character, and `rounds` bounds their number. -/
def run (r : Reader) : Nat → List Char → Option Reader
  | rounds, cs =>
    match skip r.flags.verbose cs with
    | [] => some r
    | cs =>
      match rounds with
      | 0 => none
      | rounds + 1 =>
        match r.step cs with
        | some (next, after) => next.run rounds after
        | none => none

end Reader

/-- The pattern of a text, when it is well-formed and nests no deeper than allowed. -/
def ofChars? (cs : List Char) : Option Pattern :=
  match (Reader.mk .initial [] [] [] []).run cs.length cs with
  | some r =>
    let pattern := r.closeBody
    if r.scopes.isEmpty && pattern.height ≤ maxHeight then some pattern else none
  | none => none

end Pattern

end RecordSchema
