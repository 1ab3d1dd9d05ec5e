/-!
# Decimal numbers

A decimal number is a whole mantissa together with the number of its digits
that stand behind the decimal point.  Two decimals may denote the same number
and still be written differently: `1` and `1.0` have mantissas `1` and `10`.
The module therefore keeps the stored form apart from the denoted number,
which is compared through the shortest stored form.

A stored decimal is written in one of four layouts: a fraction in positional
notation, a small fraction with an upper-case exponent, a whole number with
its zeros, or a large whole number with a lower-case exponent.  Scales may be
far larger than any text could be, so no layout writes more than a few zeros
beyond the stored digits.
-/

namespace ContentSearch

/-- The number `mantissa * 10 ^ (-scale)`. -/
structure Decimal where
  mantissa : Int
  scale : Int
  deriving DecidableEq

namespace Decimal

def ofInt (number : Int) : Decimal :=
  ⟨number, 0⟩

/-- Drops the last digit of a nonzero mantissa as long as it is a zero. -/
def strip (mantissa : Nat) (scale : Int) : Nat × Int :=
  if mantissa ≠ 0 ∧ mantissa % 10 = 0 then
    strip (mantissa / 10) (scale - 1)
  else
    (mantissa, scale)
  termination_by mantissa
  decreasing_by omega

/-- The stored form of the same number with the fewest digits; zero is stored
with scale zero. -/
def reduced (decimal : Decimal) : Decimal :=
  if decimal.mantissa = 0 then
    ⟨0, 0⟩
  else
    let (mantissa, scale) := strip decimal.mantissa.natAbs decimal.scale
    ⟨if decimal.mantissa < 0 then -(mantissa : Int) else mantissa, scale⟩

/-- Whether two decimals denote the same number. -/
def same (first second : Decimal) : Bool :=
  first.reduced == second.reduced

/-- The digits of the mantissa, without sign and without leading zeros. -/
def digits (decimal : Decimal) : List Char :=
  Nat.toDigits 10 decimal.mantissa.natAbs

/-- The number of zeros after the point from which on a fraction is written
with an exponent. -/
def mostLeadingZeros : Nat := 5

/-- The number of zeros at the end from which on a whole number is written
with an exponent. -/
def mostTrailingZeros : Nat := 15

/-- A fraction below one, written with `count` digits after the point of which
the last are `digits`, or a number with its last `count` digits after the
point. -/
def positional (digits : List Char) (count : Nat) : List Char :=
  if count < digits.length then
    digits.take (digits.length - count) ++
      '.' :: digits.drop (digits.length - count)
  else
    '0' :: '.' :: (List.replicate (count - digits.length) '0' ++ digits)

/-- The first digit, a point if more digits follow, and the digits that
follow. -/
def pointed : List Char → List Char
  | [] => []
  | [digit] => [digit]
  | digit :: rest => digit :: '.' :: rest

/-- The number without its sign.  With `count` digits behind the point and
more than `mostLeadingZeros` zeros among them, the exponent is that of the
first digit, which is negative. -/
def magnitude (decimal : Decimal) : List Char :=
  if decimal.mantissa = 0 then
    ['0']
  else if 0 < decimal.scale then
    let count := decimal.scale.toNat
    if decimal.digits.length + mostLeadingZeros < count then
      pointed decimal.digits ++
        'E' :: '-' :: Nat.toDigits 10 (count + 1 - decimal.digits.length)
    else
      positional decimal.digits count
  else
    let zeros := (-decimal.scale).toNat
    if mostTrailingZeros < zeros then
      decimal.digits ++ 'e' :: '+' :: Nat.toDigits 10 zeros
    else
      decimal.digits ++ List.replicate zeros '0'

def characters (decimal : Decimal) : List Char :=
  if decimal.mantissa < 0 then
    '-' :: decimal.magnitude
  else
    decimal.magnitude

end Decimal

end ContentSearch
