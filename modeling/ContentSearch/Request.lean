import ContentSearch.Options
import ContentSearch.Url.Form
import ContentSearch.Url.Path

/-!
# Requests

A request names a collection, the text of a query and perhaps some options.
Its address is the joined path of the service and the collection, followed by
the query text and the options as encoded pairs.  The path stands in the
address as it is.
-/

namespace ContentSearch

/-- What is asked of the repository. -/
structure Request where
  path : String
  query : String
  options : Option Options
  deriving DecidableEq

namespace Request

/-- The pairs of the address: the query text, then the options. -/
def pairs (request : Request) : List (String × String) :=
  ("query", request.query) ::
    match request.options with
    | none => []
    | some options => options.pairs

/-- The part of the address before the question mark. -/
def resource (request : Request) (settings : Settings) : String :=
  "/" ++ Url.join [settings.serviceToken, request.path]

/-- The address of the request; the path of the collection must not be
empty. -/
def url (request : Request) (settings : Settings) : Except Fault String :=
  if request.path.isEmpty then
    .error .emptyPath
  else
    .ok (request.resource settings ++ "?" ++
      String.ofList (Url.encodePairs request.pairs))

/-- A request has an address exactly if its path is not empty. -/
theorem exists_url_eq_ok_iff (request : Request) (settings : Settings) :
    (∃ url, request.url settings = .ok url) ↔ request.path ≠ "" := by
  unfold url
  by_cases missing : request.path = "" <;> simp [missing]

end Request

end ContentSearch
