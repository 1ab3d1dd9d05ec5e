import ContentSearch.BoundQuery

/-!
# Pickers for reference fields

A reference field lets its user pick a content item.  The picker searches the
whole content tree for a text.  The field may restrict the types of the items
and the subtrees in which they lie; a restriction without alternatives is left
out, and one with alternatives is a nested query, even if it has only one.
-/

namespace ContentSearch

/-- A search for the targets of a reference field. -/
structure Picker where
  /-- What the user typed. -/
  term : String
  /-- The types of admitted items; any type if empty. -/
  types : List String
  /-- The subtrees of admitted items; any place if empty. -/
  roots : List String
  top : UInt64
  skip : UInt64
  deriving DecidableEq

namespace Picker

/-- The search for a text without restrictions, on the first page. -/
def ofTerm (term : String) : Picker :=
  ⟨term, [], [], 10, 0⟩

/-- The field under which the repository finds all text of an item. -/
def fullTextField : String := "_Text"

/-- The condition that the text of an item has the searched text in it. -/
def searched (picker : Picker) : Condition :=
  .equal fullTextField (.text ("*" ++ picker.term ++ "*"))

def alternative (condition : String → Condition)
    (draft : Draft .wantsConnective) (item : String) :
    Draft .wantsConnective :=
  (draft.connect .or).condition (condition item)

def alternatives? (items : List String) (condition : String → Condition) :
    Option (Draft .wantsConnective) :=
  match items with
  | [] => none
  | first :: rest =>
      some (rest.foldl (alternative condition)
        (Draft.empty.condition (condition first)))

/-- Adds the alternatives as a nested query, if there are any. -/
def restrict (draft : Draft .wantsConnective)
    (choices : Option (Draft .wantsConnective)) :
    Draft .wantsConnective :=
  match choices with
  | none => draft
  | some inner => (draft.connect .and).nest inner

/-- Adds the search to a draft: the text, the subtrees, the types and the
page. -/
def write (picker : Picker) (draft : Draft .wantsRestriction) :
    Draft .wantsConnective :=
  let found := draft.condition picker.searched
  let placed := restrict found (alternatives? picker.roots .inTree)
  let typed := restrict placed (alternatives? picker.types .ofType)
  (typed.modify (.top picker.top)).modify (.skip picker.skip)

/-- Binds the search to the root of the content tree, with all fields. -/
def bind (picker : Picker) (settings : Settings) :
    Except Fault (BoundQuery Json) :=
  Id.run (BoundQuery.bind (pure ⟨_, picker.write Draft.empty⟩)
    ⟨settings.rootPath⟩ (some .ofEverything))

end Picker

end ContentSearch
