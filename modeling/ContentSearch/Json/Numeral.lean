import ContentSearch.Decimal.Shortest
import ContentSearch.Text.Digits

/-!
# Numerals of binary numbers

A number in double precision is written with the fewest digits that read back
to it; of two numerals that are equally near, the one with an even last digit
is taken.  Positional notation is used while the first digit stands at most five
places behind the point and at most sixteen places before it; such a numeral
always has a point.  Other numbers have one digit before the point and an
exponent, which always has a sign and never a zero in front.
-/

namespace ContentSearch

namespace Json

/-- The least exponent of the first digit that is written positionally. -/
def leastPositional : Int := -5

/-- The greatest exponent of the first digit that is written positionally. -/
def greatestPositional : Int := 15

/-- The positional numeral of the digits before and after the point, where the
first digit has the given exponent. -/
def positionalNumeral (digits : List Char) (exponent : Int) : List Char :=
  if exponent < 0 then
    '0' :: '.' :: (List.replicate (-exponent - 1).toNat '0' ++ digits)
  else
    let whole := exponent.toNat + 1
    let fraction := digits.drop whole
    (digits.take whole).rightpad whole '0' ++
      '.' :: (if fraction.isEmpty then ['0'] else fraction)

def scientificNumeral (digits : List Char) (exponent : Int) : List Char :=
  Decimal.pointed digits ++ 'e' :: (if exponent < 0 then '-' else '+') ::
    Text.decimal exponent.natAbs

/-- The numeral of a finite number without its sign. -/
def unsignedNumeral (significand : Nat) (exponent : Int)
    (lowestOfBinade : Bool) : List Char :=
  let (multiple, power) :=
    Decimal.shortest .even significand exponent lowestOfBinade
  let digits := Text.decimal multiple
  let first := power + digits.length - 1
  if leastPositional ≤ first ∧ first ≤ greatestPositional then
    positionalNumeral digits first
  else
    scientificNumeral digits first

/-- The numeral of a number in double precision; `null` for what is no
number. -/
def realCharacters (word : UInt64) : List Char :=
  match BinaryNumber.ofWord .double word.toNat with
  | .finite negative significand exponent lowestOfBinade =>
      (if negative then ['-'] else []) ++
        unsignedNumeral significand exponent lowestOfBinade
  | _ => "null".toList

end Json

end ContentSearch
