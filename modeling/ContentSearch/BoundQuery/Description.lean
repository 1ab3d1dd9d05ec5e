import ContentSearch.BoundQuery
import ContentSearch.Options.Description

/-!
# Reports of bound queries

A report shows the text, the path and the options of a query.  The mapping
cannot be shown; two points stand in its place.
-/

namespace ContentSearch

def BoundQuery.description {Result : Type} (query : BoundQuery Result) :
    String :=
  "Query \x7b query: " ++ Options.describeText query.text ++
    ", path: " ++ Options.describeText query.path ++
    ", params: " ++
      Options.describeOptional Options.description query.options ++
    ", .. \x7d"

end ContentSearch
