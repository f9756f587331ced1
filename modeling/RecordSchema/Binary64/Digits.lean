import RecordSchema.Binary64

/-!
# Shortest decimal digits

`shortest` gives the fewest digits that read back to a double, and of these the
nearest: it takes the coarsest decimal grid with a point inside the interval of
reals that round to the value. A text then is a choice of layout. *Number text*
is the layout of documents, *plain text* the one of messages and raw wrappers.
-/

namespace RecordSchema

namespace Binary64

/-- Where an exact tie between two decimal neighbours goes. -/
inductive Tie where
  | toEven
  | up

/-- The reals that round to a magnitude, in quarters of a unit; the ends
belong to the interval when the significand is even. -/
structure Interval where
  low : Nat
  high : Nat
  closed : Bool

def Interval.ofMagnitude (m : Nat) : Interval :=
  let spacing := step m
  let below := if m = Nat.pow 2 m.log2 ∧ 1 < spacing then spacing else 2 * spacing
  ⟨4 * m - below, 4 * m + 2 * spacing, (m / spacing) % 2 == 0⟩

/-- Whether `num / den` quarters of a unit lies in the interval. -/
def Interval.contains (i : Interval) (num den : Nat) : Bool :=
  if i.closed then i.low * den ≤ num && num ≤ i.high * den
  else i.low * den < num && num < i.high * den

/-- The multiple of `10 ^ scale` that stands for a magnitude on that grid:
the nearer of its two neighbours among those inside the interval. -/
def gridPoint? (tie : Tie) (m : Nat) (scale : Int) : Option Nat :=
  let up := Nat.pow 10 scale.toNat
  let down := Nat.pow 10 (-scale).toNat
  -- the value is `num / den` grid steps
  let num := m * down
  let den := one * up
  let lower := num / den
  let interval := Interval.ofMagnitude m
  let inside (c : Nat) : Bool := interval.contains (4 * c * den) down
  let twice := 2 * (num % den)
  let upFirst : Bool :=
    match tie with
    | .toEven => den < twice || (twice == den && lower % 2 == 1)
    | .up => den ≤ twice
  let first := if upFirst then lower + 1 else lower
  let second := if upFirst then lower else lower + 1
  if inside first then some first else if inside second then some second else none

/-- The first grid with a hit, from `10 ^ scale` downwards. -/
def shortestFrom (tie : Tie) (m : Nat) : Nat → Int → Nat × Int
  | 0, scale => ((gridPoint? tie m scale).getD 0, scale)
  | tries + 1, scale =>
    match gridPoint? tie m scale with
    | some c => (c, scale)
    | none => shortestFrom tie m tries (scale - 1)

/-- A power of ten above every magnitude with this leading bit. -/
def scaleAbove (m : Nat) : Int := ((m.log2 : Int) - unitExponent) * 30103 / 100000 + 2

/-- Digits and scale of the shortest decimal of a positive magnitude. -/
def shortest (tie : Tie) (m : Nat) : Nat × Int := shortestFrom tie m 1100 (scaleAbove m)

def zeros (n : Nat) : String := String.ofList (List.replicate n '0')

/-- `digits · 10 ^ scale` in positional notation, without a fraction when whole. -/
def positional (digits : Nat) (scale : Int) : String :=
  let ds := (Nat.toDigits 10 digits)
  let point : Int := ds.length + scale
  if 0 ≤ scale then String.ofList ds ++ zeros scale.toNat
  else if 0 < point then
    String.ofList (ds.take point.toNat) ++ "." ++ String.ofList (ds.drop point.toNat)
  else "0." ++ zeros (-point).toNat ++ String.ofList ds

/-- `d.ddd` with a signed exponent and no padding. -/
def scientific (digits : Nat) (scale : Int) : String :=
  let ds := (Nat.toDigits 10 digits)
  let exponent : Int := scale + ds.length - 1
  let fraction := if ds.length ≤ 1 then "" else "." ++ String.ofList (ds.drop 1)
  String.ofList (ds.take 1) ++ fraction ++ "e" ++ (if exponent < 0 then "-" else "+")
    ++ Nat.repr exponent.natAbs

def signText (negative : Bool) : String := if negative then "-" else ""

/-- Number text: positional with a fraction for exponents from -5 to 15,
scientific beyond. -/
def Finite.numberText (x : Finite) : String :=
  signText x.negative ++
    if x.magnitude = 0 then "0.0"
    else
      let (digits, scale) := shortest .toEven x.magnitude
      let exponent : Int := scale + digitCount digits - 1
      if -5 ≤ exponent ∧ exponent ≤ 15 then
        positional digits scale ++ (if 0 ≤ scale then ".0" else "")
      else scientific digits scale

/-- Plain text: positional always, and a whole value has no fraction. -/
def Finite.plainText (x : Finite) : String :=
  signText x.negative ++
    if x.magnitude = 0 then "0"
    else
      let (digits, scale) := shortest .up x.magnitude
      positional digits scale

def plainText : Binary64 → String
  | .finite x => x.plainText
  | .infinite negative => signText negative ++ "inf"
  | .nan => "NaN"

end Binary64

end RecordSchema
