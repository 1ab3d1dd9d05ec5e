/-!
# JSON values

Settings, response options and pages of results are JSON values.  Whole
numbers are kept apart from binary fractions because readers tell them apart:
a number written with a point or an exponent is a fraction even if it is
whole.  The members of an object keep the order in which they were given;
readers find them by name.
-/

namespace ContentSearch

inductive Json where
  | null
  | truth (value : Bool)
  | integer (value : Int)
  /-- A number in double precision, by its sixty-four bits. -/
  | real (word : UInt64)
  | text (value : String)
  | list (items : List Json)
  | object (members : List (String × Json))
  deriving Inhabited

namespace Json

def ofTexts (texts : List String) : Json :=
  list (texts.map text)

end Json

end ContentSearch
