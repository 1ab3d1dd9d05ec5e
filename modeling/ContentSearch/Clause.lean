import ContentSearch.Literal

/-!
# Clauses

A content query is a sequence of clauses.  Conditions and nested queries
restrict the result, connectives stand between them, and modifiers order the
result or cut a page out of it.  A nested query carries a sequence of clauses
of its own, to any depth.

The type admits every sequence; which sequences can be built is the matter of
the module on drafts.
-/

namespace ContentSearch

/-- One end of a range. -/
structure Bound where
  value : Literal
  inclusive : Bool
  deriving DecidableEq

namespace Bound

def excluded (value : Literal) : Bound := ⟨value, false⟩

def included (value : Literal) : Bound := ⟨value, true⟩

def same (first second : Bound) : Bool :=
  first.value.same second.value && first.inclusive == second.inclusive

end Bound

/-- A restriction of the result that has no further parts. -/
inductive Condition where
  /-- Free text, which stands in the query as it is. -/
  | term (text : String)
  /-- Content of this type or of a type derived from it. -/
  | ofType (name : String)
  /-- Content of exactly this type. -/
  | ofExactType (name : String)
  /-- Direct children of a folder. -/
  | inFolder (path : String)
  /-- Everything below a path. -/
  | inTree (path : String)
  | equal (field : String) (value : Literal)
  | different (field : String) (value : Literal)
  | range (field : String) (lower upper : Bound)
  | above (field : String) (bound : Bound)
  | below (field : String) (bound : Bound)
  deriving DecidableEq

def Condition.between (field : String) (lower upper : Literal) : Condition :=
  range field (.excluded lower) (.excluded upper)

/-- The word between two conditions. -/
inductive Connective where
  | and
  | or
  deriving DecidableEq

/-- A clause that shapes the result instead of restricting it. -/
inductive Modifier where
  | sort (field : String) (descending : Bool)
  /-- The greatest number of results. -/
  | top (count : UInt64)
  /-- The number of results left out at the start. -/
  | skip (count : UInt64)
  deriving DecidableEq

/-- One piece of a query. -/
inductive Clause where
  | condition (condition : Condition)
  | nested (inner : List Clause)
  /-- A nested query whose result is excluded. -/
  | negated (inner : List Clause)
  | connective (connective : Connective)
  | modifier (modifier : Modifier)

/-- Whether two conditions are of one kind with equal names and paths and the
same literals. -/
def Condition.same : Condition → Condition → Bool
  | equal field value, equal otherField otherValue =>
      field == otherField && value.same otherValue
  | different field value, different otherField otherValue =>
      field == otherField && value.same otherValue
  | range field lower upper, range otherField otherLower otherUpper =>
      field == otherField && lower.same otherLower && upper.same otherUpper
  | above field bound, above otherField otherBound =>
      field == otherField && bound.same otherBound
  | below field bound, below otherField otherBound =>
      field == otherField && bound.same otherBound
  | first, second => first == second

namespace Clause

/-- Whether the clause orders the result or cuts a page out of it. -/
def isModifier : Clause → Bool
  | modifier _ => true
  | _ => false

mutual

/-- Whether two clauses are of one kind with the same contents, where numbers
are compared as numbers. -/
def same : Clause → Clause → Bool
  | condition first, condition second => first.same second
  | nested inner, nested other => sameList inner other
  | negated inner, negated other => sameList inner other
  | connective first, connective second => first == second
  | modifier first, modifier second => first == second
  | _, _ => false

def sameList : List Clause → List Clause → Bool
  | [], [] => true
  | first :: rest, second :: others =>
      first.same second && sameList rest others
  | _, _ => false

end

end Clause

end ContentSearch
