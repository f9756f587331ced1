import RecordSchema.Unicode.CharSet

/-!
# Patterns

Regular patterns over characters. Groups are kept because they count towards
the nesting and the compiled size of a pattern; they do not change what it
matches.
-/

namespace RecordSchema

namespace Pattern

/-- A condition on a place between two characters. `ascii` restricts words to
ASCII letters, digits and the underscore. -/
inductive Look where
  | textStart
  | textEnd
  | lineStart
  | lineEnd
  /-- Line ends written `\r\n`, `\r` or `\n`. -/
  | anyLineStart
  | anyLineEnd
  | wordBoundary (ascii : Bool)
  | notWordBoundary (ascii : Bool)
  | wordStart (ascii : Bool)
  | wordEnd (ascii : Bool)
  /-- No word character before. -/
  | wordStartHalf (ascii : Bool)
  /-- No word character after. -/
  | wordEndHalf (ascii : Bool)
  deriving DecidableEq

end Pattern

inductive Pattern where
  | empty
  /-- One character of a set, which was written with so many levels of brackets. -/
  | char (set : Unicode.CharSet) (levels : Nat)
  | look (l : Pattern.Look)
  | group (capturing : Bool) (body : Pattern)
  | concat (parts : List Pattern)
  | branch (choices : List Pattern)
  /-- At least `min` and at most `max` times; without `max`, any number of times. -/
  | repeated (body : Pattern) (min : Nat) (max : Option Nat)
  deriving Inhabited

namespace Pattern

/-- A list of one part is that part. -/
def ofParts : List Pattern → Pattern
  | [] => .empty
  | [p] => p
  | ps => .concat ps

def ofChoices : List Pattern → Pattern
  | [] => .empty
  | [p] => p
  | ps => .branch ps

mutual
/-- Levels of constructions inside one another. -/
def height : Pattern → Nat
  | .empty => 0
  | .char _ levels => levels
  | .look _ => 0
  | .group _ body => body.height + 1
  | .concat parts => heightAll parts + 1
  | .branch choices => heightAll choices + 1
  | .repeated body _ _ => body.height + 1
def heightAll : List Pattern → Nat
  | [] => 0
  | p :: rest => max p.height (heightAll rest)
end

/-- The levels that a pattern may nest. -/
def maxHeight : Nat := 250

end Pattern

end RecordSchema
