/-!
# Form encoding

The query part of an address is a list of pairs in the encoding of web forms.
Letters, digits and the four characters `*`, `-`, `.` and `_` stay, a space
becomes a plus sign, and every other character becomes its bytes in UTF-8,
each as a percent sign and two upper-case hexadecimal digits.  An ampersand
stands between pairs and an equality sign between a name and its text; neither
is left in an encoded name or text.
-/

namespace ContentSearch

namespace Url

/-- Whether a character is its own encoding. -/
def isPlain (character : Char) : Bool :=
  character.isAlphanum || ['*', '-', '.', '_'].contains character

def hexDigit (value : Nat) : Char :=
  Char.ofNat (if value < 10 then 48 + value else 55 + value)

/-- A byte as a percent sign and two digits. -/
def percentTriple (byte : UInt8) : List Char :=
  ['%', hexDigit (byte.toNat / 16), hexDigit (byte.toNat % 16)]

def encodeCharacter (character : Char) : List Char :=
  if isPlain character then
    [character]
  else if character = ' ' then
    ['+']
  else
    (String.utf8EncodeChar character).flatMap percentTriple

def encode (text : String) : List Char :=
  text.toList.flatMap encodeCharacter

def encodePair (pair : String × String) : List Char :=
  encode pair.1 ++ '=' :: encode pair.2

def encodePairs (pairs : List (String × String)) : List Char :=
  ['&'].intercalate (pairs.map encodePair)

@[simp]
theorem encodePairs_nil : encodePairs [] = [] :=
  rfl

end Url

end ContentSearch
