import ContentSearch.Clause.Text
import ContentSearch.Draft
import ContentSearch.Location
import ContentSearch.Request
import ContentSearch.Page

/-!
# Bound queries

A query is bound to the path of a collection, to response options, and to a
mapping that turns each record of a page into a result.  Binding checks the
path first and only then asks for the draft, whose fault, if there is one, is
reported.  Nothing is fetched while a query is bound.

A bound query does not change.  Its request depends on its clauses, its path
and its options, not on its mapping.
-/

namespace ContentSearch

/-- A query that can be executed, with results in `Result`. -/
structure BoundQuery (Result : Type) where
  clauses : List Clause
  path : String
  options : Option Options
  mapping : Json → Result

/-- What the execution of a query yields: the number of all results, and the
results of the page in the order of the repository. -/
structure Results (Result : Type) where
  count : Nat
  items : List Result
  deriving DecidableEq

namespace BoundQuery

/-- Binds the query that is written by a computation.  The computation runs
only if the path is not missing; a new query maps every record to itself. -/
def bind {m : Type → Type} [Monad m] (write : m AnyDraft)
    (location : Location) (options : Option Options) :
    m (Except Fault (BoundQuery Json)) :=
  match location.required with
  | .error fault => pure (.error fault)
  | .ok path => do
      let written ← write
      match written.fault with
      | some fault => pure (.error fault)
      | none => pure (.ok ⟨written.clauses, path, options, id⟩)

/-- Binds a query to the children of a content item. -/
def bindToItem {m : Type → Type} [Monad m] (write : m AnyDraft)
    (item : ContentItem) (options : Option Options) :
    m (Except Fault (BoundQuery Json)) :=
  bind write (.ofItem item) options

variable {Result : Type}

def text (query : BoundQuery Result) : String :=
  Clause.listText query.clauses

def request (query : BoundQuery Result) : Request where
  path := query.path
  query := query.text
  options := query.options

/-- The same query with another mapping; the mapping it had is not used any
more. -/
def remap {Other : Type} (query : BoundQuery Result)
    (mapping : Json → Other) : BoundQuery Other :=
  { query with mapping }

def results (query : BoundQuery Result) (page : Page) : Results Result where
  count := page.total
  items := page.items.map query.mapping

end BoundQuery

end ContentSearch
