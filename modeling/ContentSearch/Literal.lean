import ContentSearch.Calendar
import ContentSearch.Decimal.Shortest

/-!
# Literals

A literal is the value that a condition compares a field with.  The module
holds the six kinds of literals, the conversions from whole and binary
numbers, the text of a literal, and the comparison of literals.

Two literals are the same if they are of one kind and denote the same value:
numbers are compared as numbers, so `1` and `1.0` are the same literal
although their texts differ.
-/

namespace ContentSearch

/-- A value that a field is compared with. -/
inductive Literal where
  | truth (value : Bool)
  | number (value : Decimal)
  | text (value : String)
  /-- A moment in universal time. -/
  | instant (value : Moment)
  /-- A moment on a clock of an unstated place. -/
  | wallClock (value : Moment)
  | date (value : Date)
  deriving DecidableEq

namespace Literal

def ofInt (value : Int) : Literal :=
  number (Decimal.ofInt value)

/-- A binary number: the shortest decimal of a finite one, and the name of
any other. -/
def ofBinary : BinaryNumber → Literal
  | .notANumber => text "NaN"
  | .infinite false => text "inf"
  | .infinite true => text "-inf"
  | .finite negative significand exponent lowestOfBinade =>
      number (Decimal.ofFinite negative significand exponent lowestOfBinade)

/-- The text of the literal, before it is quoted. -/
def characters : Literal → List Char
  | truth value => (if value then "true" else "false").toList
  | number value => value.characters
  | text value => value.toList
  | instant value => value.universalCharacters
  | wallClock value => value.characters
  | date value => value.characters

/-- Whether two literals are of one kind and denote the same value. -/
def same : Literal → Literal → Bool
  | number first, number second => first.same second
  | first, second => first == second

end Literal

/-- The text of a literal inside its quotes.  A colon separates a field from
its value in the query language, so every colon gets a backslash; no other
character changes. -/
def escapeColons (characters : List Char) : List Char :=
  characters.flatMap fun character =>
    if character = ':' then ['\\', ':'] else [character]

/-- A literal as it stands in a query: escaped, in single quotes. -/
def Literal.quoted (literal : Literal) : List Char :=
  '\'' :: escapeColons literal.characters ++ ['\'']

@[simp]
theorem escapeColons_nil : escapeColons [] = [] :=
  rfl

@[simp]
theorem escapeColons_append (first second : List Char) :
    escapeColons (first ++ second) = escapeColons first ++ escapeColons second :=
  List.flatMap_append

end ContentSearch
