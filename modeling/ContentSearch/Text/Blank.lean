/-!
# Blank characters and trimming

Field lists are written by hand, so blanks around a name are dropped when the
list is read.  A blank is any character with the Unicode property
`White_Space`; the property has twenty-five members, listed here in full.  The
module also holds the general operation of removing unwanted characters from
both ends of a text, which paths use for slashes.
-/

namespace ContentSearch

namespace Text

/-- The members of the Unicode property `White_Space`, in code order. -/
def blanks : List Char :=
  ['\x09', '\x0a', '\x0b', '\x0c', '\x0d', '\x20', '\u0085', '\u00a0',
    '\u1680', '\u2000', '\u2001', '\u2002', '\u2003', '\u2004', '\u2005',
    '\u2006', '\u2007', '\u2008', '\u2009', '\u200a', '\u2028', '\u2029',
    '\u202f', '\u205f', '\u3000']

def isBlank (character : Char) : Bool :=
  blanks.contains character

/-- Removes the longest run of unwanted characters from both ends. -/
def trimWhere (unwanted : Char → Bool) (characters : List Char) : List Char :=
  ((characters.dropWhile unwanted).reverse.dropWhile unwanted).reverse

def trim (characters : List Char) : List Char :=
  trimWhere isBlank characters

end Text

end ContentSearch
