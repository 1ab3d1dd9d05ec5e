import ContentSearch.Decimal.Basic
import ContentSearch.Decimal.Power

/-!
# Shortest decimal text of a binary number

A binary floating-point number stands for every real number that rounds to
it.  It is written by the shortest decimal among those: among the grids of
multiples of a power of ten, the coarsest grid that has a point in the
rounding interval is taken, and on it the point nearest to the number.  All
comparisons are made between natural numbers, so nothing is rounded on the
way.

A finite number is `significand * 2 ^ exponent`.  The distance to the number
above is one unit of that exponent; the distance to the number below is half
a unit where the significand is the smallest of its binade.  An end of the
interval rounds to the number exactly if the significand is even.

Where the number lies midway between two points of the grid, formats differ in
the point that they take; the rule is a parameter.
-/

namespace ContentSearch

/-- A binary interchange format: the number of stored fraction bits and the
number of exponent bits. -/
structure BinaryFormat where
  fractionBits : Nat
  exponentBits : Nat
  deriving DecidableEq

namespace BinaryFormat

def double : BinaryFormat := ⟨52, 11⟩

def single : BinaryFormat := ⟨23, 8⟩

end BinaryFormat

/-- What a binary word denotes.  `lowestOfBinade` tells that the neighbour
below is only half as far away as the neighbour above. -/
inductive BinaryNumber where
  | notANumber
  | infinite (negative : Bool)
  | finite (negative : Bool) (significand : Nat) (exponent : Int)
      (lowestOfBinade : Bool)
  deriving DecidableEq

namespace BinaryNumber

/-- Reads the fields of a word: sign, exponent, fraction.  The least exponent
field marks subnormal numbers, the greatest one marks infinities and the
words that are no number. -/
def ofWord (format : BinaryFormat) (word : Nat) : BinaryNumber :=
  let fraction := word % powerOfTwo format.fractionBits
  let field :=
    word / powerOfTwo format.fractionBits % powerOfTwo format.exponentBits
  let negative :=
    word / powerOfTwo (format.fractionBits + format.exponentBits) % 2 == 1
  let least : Int :=
    2 - powerOfTwo (format.exponentBits - 1) - format.fractionBits
  if field = powerOfTwo format.exponentBits - 1 then
    if fraction = 0 then infinite negative else notANumber
  else if field = 0 then
    finite negative fraction least false
  else
    finite negative (powerOfTwo format.fractionBits + fraction)
      (least + field - 1) (fraction == 0 && field != 1)

end BinaryNumber

/-- Which of two equally near points of a grid is taken. -/
inductive TieRule where
  | upper
  /-- The point that is an even multiple. -/
  | even
  deriving DecidableEq

namespace TieRule

/-- Whether the point above is taken instead of `multiple`. -/
def takesUpper : TieRule → Nat → Bool
  | upper, _ => true
  | even, multiple => multiple % 2 == 1

end TieRule

namespace Decimal

/-- The rounding interval of a positive binary number, in quarters of its
unit: the number, its ends, and whether the ends belong to it, all to be
multiplied by `2 ^ exponent`. -/
structure RoundingInterval where
  lower : Nat
  centre : Nat
  upper : Nat
  closed : Bool
  exponent : Int
  deriving DecidableEq

namespace RoundingInterval

/-- The interval around `significand * 2 ^ exponent`. -/
def around (significand : Nat) (exponent : Int) (lowestOfBinade : Bool) :
    RoundingInterval where
  lower := 4 * significand - if lowestOfBinade then 1 else 2
  centre := 4 * significand
  upper := 4 * significand + 2
  closed := significand % 2 == 0
  exponent := exponent - 2

/-- The factor that makes whole numbers of the interval's bounds when they are
measured in units of `10 ^ power`. -/
def boundFactor (interval : RoundingInterval) (power : Int) : Nat :=
  powerOfTwo interval.exponent.toNat * powerOfTen (-power).toNat

/-- The length of one step of the grid `10 ^ power` on the scale of
`boundFactor`. -/
def gridStep (interval : RoundingInterval) (power : Int) : Nat :=
  powerOfTwo (-interval.exponent).toNat * powerOfTen power.toNat

/-- Whether `multiple * 10 ^ power` rounds to the number. -/
def covers (interval : RoundingInterval) (multiple : Nat) (power : Int) :
    Bool :=
  let point := multiple * interval.gridStep power
  let lower := interval.lower * interval.boundFactor power
  let upper := interval.upper * interval.boundFactor power
  if interval.closed then
    lower ≤ point && point ≤ upper
  else
    lower < point && point < upper

/-- The greatest multiple of `10 ^ power` that is not above the number. -/
def below (interval : RoundingInterval) (power : Int) : Nat :=
  interval.centre * interval.boundFactor power / interval.gridStep power

/-- The point of the grid that represents the number, if one of its two
neighbours on the grid rounds to it.  Of two such neighbours the nearer one is
taken, and the tie rule decides if the number lies midway. -/
def pointOn? (interval : RoundingInterval) (tie : TieRule) (power : Int) :
    Option Nat :=
  let below := interval.below power
  let rest := interval.centre * interval.boundFactor power %
    interval.gridStep power
  match interval.covers below power, interval.covers (below + 1) power with
  | false, false => none
  | true, false => some below
  | false, true => some (below + 1)
  | true, true =>
      if 2 * rest < interval.gridStep power then
        some below
      else if 2 * rest = interval.gridStep power ∧
          tie.takesUpper below = false then
        some below
      else
        some (below + 1)

/-- Goes from the grid `10 ^ power` to finer grids until one represents the
number; the finest grid visited holds the number itself. -/
def coarsest (interval : RoundingInterval) (tie : TieRule) :
    Nat → Int → Nat × Int
  | 0, power => (interval.below power, power)
  | finer + 1, power =>
      match interval.pointOn? tie power with
      | some multiple => (multiple, power)
      | none => coarsest interval tie finer (power - 1)

/-- The shortest decimal in the interval, as a multiple of a power of ten.
The search starts at a power above the number and ends at the power of the
least binary digit, whose grid holds the number. -/
def shortest (interval : RoundingInterval) (tie : TieRule) : Nat × Int :=
  let start : Int := (Nat.toDigits 10 (interval.below 0)).length
  let finest : Int := min interval.exponent 0
  interval.coarsest tie (start - finest).toNat start

end RoundingInterval

/-- The multiple of a power of ten that is the shortest decimal of a finite
binary number. -/
def shortest (tie : TieRule) (significand : Nat) (exponent : Int)
    (lowestOfBinade : Bool) : Nat × Int :=
  if significand = 0 then
    (0, 0)
  else
    (RoundingInterval.around significand exponent lowestOfBinade).shortest tie

/-- The decimal written as the shortest text of a finite binary number: a
whole number has scale zero and shows its zeros, a fraction has no zero at
its end, and ties go up. -/
def ofFinite (negative : Bool) (significand : Nat) (exponent : Int)
    (lowestOfBinade : Bool) : Decimal :=
  let (multiple, power) :=
    shortest .upper significand exponent lowestOfBinade
  let mantissa := multiple * powerOfTen power.toNat
  ⟨if negative then -(mantissa : Int) else mantissa, (-power).toNat⟩

end Decimal

end ContentSearch
