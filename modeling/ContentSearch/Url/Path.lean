import ContentSearch.Fault
import ContentSearch.Text.Blank
import ContentSearch.Text.Digits

/-!
# Paths in addresses

Paths are joined with one slash between neighbours.  Slashes at the ends of a
part belong to the joint and are dropped; parts that consist of slashes alone
vanish.

A content item is addressed by its number, or by a key behind the path of its
parent: the last name of its path becomes the key.  A path that already ends
with a key and has an opening of a key is left as it is.
-/

namespace ContentSearch

namespace Url

def trimSlashes (part : List Char) : List Char :=
  Text.trimWhere (· == '/') part

def joinCharacters (parts : List (List Char)) : List Char :=
  ['/'].intercalate ((parts.map trimSlashes).filter fun part => !part.isEmpty)

def join (parts : List String) : String :=
  String.ofList (joinCharacters (parts.map String.toList))

/-- Whether a text holds another one as a stretch. -/
def occursIn (part : List Char) : List Char → Bool
  | [] => part.isEmpty
  | character :: rest =>
      part.isPrefixOf (character :: rest) || occursIn part rest

def keyOpening : List Char := ['(', '\'']

def keyClosing : List Char := ['\'', ')']

/-- Whether a path ends like an address with a key and opens one somewhere. -/
def hasKey (path : String) : Bool :=
  occursIn keyOpening path.toList && keyClosing.isSuffixOf path.toList

/-- The stretches before and after the last slash. -/
def cutLastSlash? (path : List Char) : Option (List Char × List Char) :=
  match path.reverse.dropWhile (· != '/') with
  | [] => none
  | _ :: parent =>
      some (parent.reverse, (path.reverse.takeWhile (· != '/')).reverse)

/-- A name as the key behind the path of its parent; the root is written as a
slash. -/
def withKey (parent name : List Char) : List Char :=
  (if parent.isEmpty then ['/'] else parent) ++ keyOpening ++ name ++ keyClosing

/-- The address of the item at a path.  The path must be longer than one byte
and have a slash. -/
def ofItemPath (path : String) : Except Fault String :=
  if path.utf8ByteSize ≤ 1 then
    .error (.invalidPath path)
  else
    match cutLastSlash? path.toList with
    | none => .error (.invalidPath path)
    | some (parent, name) =>
        if hasKey path then
          .ok path
        else
          .ok (String.ofList (withKey parent name))

/-- The address of the item with a number. -/
def ofItemId (id : UInt64) : String :=
  String.ofList ("/content(".toList ++ Text.decimal id.toNat ++ [')'])

end Url

end ContentSearch
