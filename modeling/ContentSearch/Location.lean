import ContentSearch.Fault

/-!
# Content items and their paths

A query starts at a path, and containment conditions name one.  The path is
given directly or taken from a content item; an item that is not stored yet
has none.  A missing path is the same as an empty one, and it is refused only
where the path is needed.
-/

namespace ContentSearch

/-- A content item, as far as queries need it: its number and its path. -/
structure ContentItem where
  id : Option UInt64
  path : Option String
  deriving DecidableEq

/-- A path that may be missing. -/
structure Location where
  path : String
  deriving DecidableEq

namespace Location

/-- The given path, or the missing one. -/
def ofOption (path : Option String) : Location := ⟨path.getD ""⟩

def ofItem (item : ContentItem) : Location := ofOption item.path

def isMissing (location : Location) : Bool := location.path.isEmpty

/-- The path, if there is one. -/
def required (location : Location) : Except Fault String :=
  if location.isMissing then .error .emptyPath else .ok location.path

@[simp]
theorem isMissing_eq_true_iff (location : Location) :
    location.isMissing = true ↔ location.path = "" := by
  simp [isMissing]

end Location

end ContentSearch
