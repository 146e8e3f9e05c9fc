/-!
# Shortest Decimal Text

The text of a floating point number: the fewest digits from which the number
can be read back, and of the decimals with that many digits the nearest one;
of two that are equally near the larger. Digits are written out on both
sides of a point, without an exponent.

A floating point number is a mantissa times a power of two, and it is read
back from every decimal that lies closer to it than to its neighbours. The
decimals halfway to a neighbour belong to the number with the even mantissa.

## Main definitions

* `Spread`: A number with the decimals that read back as it.
* `Spread.shortest`: The shortest of those decimals.
* `floatText`: The text of a floating point number.
-/

namespace JavaSource

namespace Decimal

/-- A positive number and the bounds between which decimals read back as it,
    all over one denominator. -/
structure Spread where
  /-- The lower bound. -/
  low : Nat
  /-- The number. -/
  mid : Nat
  /-- The upper bound. -/
  high : Nat
  /-- The common denominator. -/
  unit : Nat
  /-- Whether the bounds themselves read back as the number. -/
  closed : Bool

namespace Spread

/-- Whether a decimal, over the common denominator, reads back as the
    number. -/
def holds (s : Spread) (n : Nat) : Bool :=
  if s.closed then s.low ≤ n && n ≤ s.high else s.low < n && n < s.high

/-- The spread of a mantissa times a power of two. `symmetric` tells whether the
    gap below the number is as wide as the gap above it. -/
def ofMantissa (mantissa : Nat) (exponent : Int) (symmetric : Bool) : Spread :=
  let scale := if 0 ≤ exponent then Nat.pow 2 exponent.toNat else 1
  let unit := 4 * (if 0 ≤ exponent then 1 else Nat.pow 2 (-exponent).toNat)
  { low := (4 * mantissa - (if symmetric then 2 else 1)) * scale
    mid := 4 * mantissa * scale
    high := (4 * mantissa + 2) * scale
    unit
    closed := mantissa % 2 == 0 }

/-- The spread multiplied by a power of ten. -/
def timesTen (s : Spread) (power : Nat) : Spread :=
  let factor := Nat.pow 10 power
  { s with low := s.low * factor, mid := s.mid * factor, high := s.high * factor }

/-- The multiple of a step that reads back as the number, if there is one, and
    of two the nearer. The answer counts steps. -/
def onGrid (s : Spread) (step : Nat) : Option Nat :=
  let size := s.unit * step
  let below := s.mid / size
  let above := below + 1
  let isBelow := s.holds (below * size)
  let isAbove := s.holds (above * size)
  if isBelow && isAbove then
    some (if s.mid - below * size < above * size - s.mid then below else above)
  else if isBelow then some below
  else if isAbove then some above
  else none

/-- The shortest decimal that reads back as the number, as digits and a power
    of ten. Powers of ten are tried from above, so the first one that has a
    multiple among the decimals has the fewest digits. -/
def shortestFrom (s : Spread) : Nat → Int → Nat × Int
  | 0, power => (0, power)
  | n + 1, power =>
    let found :=
      if 0 ≤ power then s.onGrid (Nat.pow 10 power.toNat) else (s.timesTen (-power).toNat).onGrid 1
    match found with
    | some digits => (digits, power)
    | none => shortestFrom s n (power - 1)

/-- The shortest decimal that reads back as the number, as digits and a power
    of ten. No floating point number reaches the power it starts from, and
    none needs a digit below the last power tried. -/
def shortest (s : Spread) : Nat × Int :=
  s.shortestFrom 700 310

end Spread

/-- Digits times a power of ten, written out around a point. -/
def positional (digits : Nat) (power : Int) : String :=
  let text := (Nat.repr digits).toList
  if 0 ≤ power then
    String.ofList (text ++ List.replicate power.toNat '0') ++ ".0"
  else
    let places := (-power).toNat
    let padded := List.replicate (places + 1 - text.length) '0' ++ text
    let whole := padded.length - places
    String.ofList (padded.take whole) ++ "." ++ String.ofList (padded.drop whole)

/-- The number of values of the fraction field of a floating point number. -/
def fractionSize : Nat := 0x10000000000000

/-- The place of the sign of a floating point number. -/
def signBit : Nat := 0x8000000000000000

/-- The text of a floating point number with a binary exponent field and a
    fraction field, without its sign. -/
def magnitudeText (exponentField fraction : Nat) : String :=
  if exponentField = 2047 then
    if fraction = 0 then "inf" else "NaN"
  else if exponentField = 0 && fraction = 0 then
    "0.0"
  else
    let spread :=
      if exponentField = 0 then Spread.ofMantissa fraction (-1074) true
      else
        Spread.ofMantissa (fractionSize + fraction) ((exponentField : Int) - 1075)
          (fraction != 0 || exponentField = 1)
    let (digits, power) := spread.shortest
    positional digits power

/-- The text of a floating point number. -/
def floatText (f : Float) : String :=
  let bits := f.toBits.toNat
  let text := magnitudeText (bits / fractionSize % 2048) (bits % fractionSize)
  if signBit ≤ bits && !f.isNaN then "-" ++ text else text

end Decimal

end JavaSource
