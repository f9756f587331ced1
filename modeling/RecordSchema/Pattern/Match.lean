import RecordSchema.Pattern
import RecordSchema.Pattern.Property

/-!
# Matching

Sets of places in a text are numbers: bit `i` stands for the place before
character `i`. A pattern takes the places where a match may begin to those
where it may end, so choices are unions, and repetition is iteration until
nothing new is reached.
-/

namespace RecordSchema

namespace Pattern

-- ---------------------------------------------------------------------------
-- Conditions on places
-- ---------------------------------------------------------------------------

def isWord (ascii : Bool) (c : Char) : Bool :=
  if ascii then c.isAlphanum || c == '_' else wordSet.contains c

def Look.holds (before after : Option Char) : Look → Bool
  | .textStart => before.isNone
  | .textEnd => after.isNone
  | .lineStart => before.isNone || before == some '\n'
  | .lineEnd => after.isNone || after == some '\n'
  | .anyLineStart =>
    before.isNone || before == some '\n' || (before == some '\r' && after != some '\n')
  | .anyLineEnd =>
    after.isNone || after == some '\r' || (after == some '\n' && before != some '\r')
  | .wordBoundary ascii => before.any (isWord ascii) != after.any (isWord ascii)
  | .notWordBoundary ascii => before.any (isWord ascii) == after.any (isWord ascii)
  | .wordStart ascii => !before.any (isWord ascii) && after.any (isWord ascii)
  | .wordEnd ascii => before.any (isWord ascii) && !after.any (isWord ascii)
  | .wordStartHalf ascii => !before.any (isWord ascii)
  | .wordEndHalf ascii => !after.any (isWord ascii)

-- ---------------------------------------------------------------------------
-- Plans
-- ---------------------------------------------------------------------------

/-- A pattern bound to a text: its characters and conditions are sets of places. -/
inductive Plan where
  | stay
  | advance (places : Nat)
  | filter (places : Nat)
  | concat (parts : List Plan)
  | branch (choices : List Plan)
  | repeated (body : Plan) (min : Nat) (max : Option Nat)

/-- The number whose bits are the answers, the first answer lowest. -/
def bits (answers : List Bool) : Nat := answers.foldr (fun b n => 2 * n + b.toNat) 0

/-- The characters before and after each place of a text. -/
def placesFrom (before : Option Char) : List Char → List (Option Char × Option Char)
  | [] => [(before, none)]
  | c :: rest => (before, some c) :: placesFrom (some c) rest

mutual
def plan (text : List Char) : Pattern → Plan
  | .empty => .stay
  | .char set _ => .advance (bits (text.map set.contains))
  | .look l => .filter (bits ((placesFrom none text).map fun place => l.holds place.1 place.2))
  | .group _ body => plan text body
  | .concat parts => .concat (planAll text parts)
  | .branch choices => .branch (planAll text choices)
  | .repeated body min max => .repeated (plan text body) min max
def planAll (text : List Char) : List Pattern → List Plan
  | [] => []
  | p :: rest => plan text p :: planAll text rest
end

/-- Apply a step so many times, or until it changes nothing. -/
def iterate (step : Nat → Nat) : Nat → Nat → Nat
  | 0, places => places
  | times + 1, places =>
    let next := step places
    if next == places then places else iterate step times next

namespace Plan

mutual
/-- The places reached from a set of places, in a text with `size` of them. -/
def run (size : Nat) : Plan → Nat → Nat
  | .stay, places => places
  | .advance mask, places => (places &&& mask) <<< 1
  | .filter mask, places => places &&& mask
  | .concat parts, places => runAll size parts places
  | .branch choices, places => runAny size choices places
  | .repeated body min max, places =>
    let required := iterate (fun s => body.run size s) min places
    let more := match max with
      | some m => Nat.min (m - min) size
      | none => size
    iterate (fun s => s ||| body.run size s) more required
def runAll (size : Nat) : List Plan → Nat → Nat
  | [], places => places
  | p :: rest, places => runAll size rest (p.run size places)
def runAny (size : Nat) : List Plan → Nat → Nat
  | [], _ => 0
  | p :: rest, places => p.run size places ||| runAny size rest places
end

end Plan

/-- The pattern matches some stretch of the text. -/
def isMatch (p : Pattern) (text : List Char) : Bool :=
  let size := text.length + 1
  (plan text p).run size (1 <<< size - 1) != 0

end Pattern

end RecordSchema
