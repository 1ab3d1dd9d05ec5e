import ContentSearch.Text.Blank

/-!
# Field selections

A request asks for all fields of its results or for a list of fields.  The
selection is written as a star or as the names with commas between them, and a
written selection may have blanks around the names and empty places, which the
reader drops.

Selections are merged field by field; the first occurrence of a field keeps
its place and later ones are dropped.  A selection of all fields absorbs every
other.
-/

namespace ContentSearch

/-- The fields that a request asks for. -/
inductive Selection where
  | everything
  | fields (names : List String)
  deriving DecidableEq

namespace Selection

/-- The names in a text with commas between them: blanks at both ends of a
name are dropped, and so are empty names. -/
def namesOf (characters : List Char) : List String :=
  (((characters.splitOn ',').map Text.trim).filter fun name =>
    !name.isEmpty).map String.ofList

/-- Reads a written selection.  A star alone selects everything; a star among
other names is a name. -/
def ofText (text : String) : Selection :=
  if Text.trim text.toList = ['*'] then
    everything
  else
    fields (namesOf text.toList)

/-- Writes a selection. -/
def text : Selection → String
  | everything => "*"
  | fields names => ",".intercalate names

/-- Adds the names that are not there yet, each once and in order. -/
def extend (names added : List String) : List String :=
  added.foldl
    (fun names name => if names.contains name then names else names ++ [name])
    names

/-- Merges selections into names that were collected before. -/
def mergeOnto (names : List String) : List Selection → Selection
  | [] => fields names
  | everything :: _ => everything
  | fields added :: rest => mergeOnto (extend names added) rest

def merge (selections : List Selection) : Selection :=
  mergeOnto [] selections

end Selection

end ContentSearch
