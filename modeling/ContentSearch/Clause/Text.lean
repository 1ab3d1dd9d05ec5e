import ContentSearch.Clause
import ContentSearch.Text.Digits

/-!
# The text of a query

Each clause has a text of its own, and the text of a query is the
concatenation of the texts of its clauses.  Connectives bring the spaces on
both of their sides and modifiers the one space before them; nothing else puts
spaces between clauses.

Literals are escaped and stand in single quotes.  Paths stand in double quotes
as they are, and so do the fields that a result is sorted by, in single
quotes.
-/

namespace ContentSearch

def Connective.word : Connective → List Char
  | and => "AND".toList
  | or => "OR".toList

/-- The equality sign of a comparison that admits its bound. -/
def Bound.equalitySign (bound : Bound) : List Char :=
  if bound.inclusive then ['='] else []

namespace Condition

def quotedPath (path : String) : List Char :=
  '"' :: path.toList ++ ['"']

/-- The text of a condition.  A range has a square bracket at an end that
belongs to it and a brace at one that does not. -/
def characters : Condition → List Char
  | term text => text.toList
  | ofType name => "TypeIs:".toList ++ name.toList
  | ofExactType name => "Type:".toList ++ name.toList
  | inFolder path => "InFolder:".toList ++ quotedPath path
  | inTree path => "InTree:".toList ++ quotedPath path
  | equal field value => field.toList ++ ':' :: value.quoted
  | different field value =>
      "NOT(".toList ++ (field.toList ++ ':' :: value.quoted) ++ [')']
  | range field lower upper =>
      field.toList ++ ':' :: (if lower.inclusive then '[' else '\x7b') ::
        lower.value.quoted ++ " TO ".toList ++ upper.value.quoted ++
          [if upper.inclusive then ']' else '\x7d']
  | above field bound =>
      field.toList ++ ':' :: '>' :: bound.equalitySign ++ bound.value.quoted
  | below field bound =>
      field.toList ++ ':' :: '<' :: bound.equalitySign ++ bound.value.quoted

end Condition

/-- The text of a modifier, which starts with a space and a point. -/
def Modifier.characters : Modifier → List Char
  | sort field descending =>
      (if descending then " .REVERSESORT:'" else " .SORT:'").toList ++
        field.toList ++ ['\'']
  | top count => " .TOP:".toList ++ Text.decimal count.toNat
  | skip count => " .SKIP:".toList ++ Text.decimal count.toNat

namespace Clause

mutual

def characters : Clause → List Char
  | condition restriction => restriction.characters
  | nested inner => '(' :: listCharacters inner ++ [')']
  | negated inner => "NOT(".toList ++ listCharacters inner ++ [')']
  | connective joint => ' ' :: joint.word ++ [' ']
  | modifier adjustment => adjustment.characters

/-- The text of a sequence of clauses: their texts one after the other. -/
def listCharacters : List Clause → List Char
  | [] => []
  | clause :: rest => clause.characters ++ listCharacters rest

end

def text (clause : Clause) : String :=
  String.ofList clause.characters

def listText (clauses : List Clause) : String :=
  String.ofList (listCharacters clauses)

@[simp]
theorem toList_text (clause : Clause) : clause.text.toList = clause.characters :=
  String.toList_ofList

@[simp]
theorem toList_listText (clauses : List Clause) :
    (listText clauses).toList = listCharacters clauses :=
  String.toList_ofList

theorem listCharacters_eq_flatMap (clauses : List Clause) :
    listCharacters clauses = clauses.flatMap characters := by
  induction clauses with
  | nil => rfl
  | cons clause rest inductionHypothesis =>
      rw [listCharacters, inductionHypothesis, List.flatMap_cons]

@[simp]
theorem listCharacters_append (first second : List Clause) :
    listCharacters (first ++ second) =
      listCharacters first ++ listCharacters second := by
  simp [listCharacters_eq_flatMap]

end Clause

end ContentSearch
