import ContentSearch.Json.Reading

/-!
# Pages

A repository answers a request with a page: some records, and the number of
all results.  In a response the page is wrapped in an envelope; the records
may be missing, and the number of results is that of the records unless the
response tells it.
-/

namespace ContentSearch

/-- One page of results. -/
structure Page where
  /-- The number of results on all pages. -/
  total : Nat
  items : List Json

namespace Page

def empty : Page := ⟨0, []⟩

/-- The contents of an envelope: the number of results, if it is told, and the
records. -/
structure Contents where
  count : Option UInt64
  results : List Json

namespace Contents

def countField : RecordField Contents :=
  .of "__count" (Json.readOptional Json.readNatural) fun value contents =>
    { contents with count := value }

def resultsField : RecordField Contents :=
  .of "results" Json.readItems fun value contents =>
    { contents with results := value }

/-- The record inside an envelope. -/
def format : RecordFormat Contents where
  name := "Collection"
  start := ⟨none, []⟩
  declared := [countField, resultsField]
  byName := [countField, resultsField]

def page (contents : Contents) : Page where
  total :=
    match contents.count with
    | some count => count.toNat
    | none => contents.results.length
  items := contents.results

end Contents

/-- The only field of an envelope. -/
def contentsField : RecordField (Option Contents) :=
  .of "d" Contents.format.read fun value _ => some value

/-- The record around the contents of a response. -/
def envelope : RecordFormat (Option Contents) where
  name := "Envelope"
  start := none
  declared := [contentsField]
  byName := [contentsField]

/-- The fault of an envelope without contents. -/
def missingContents : Json → ReadError
  | .list items => .missingElement items.length envelope.name
  | _ => .missingMember contentsField.name

def read (json : Json) : Except ReadError Page := do
  match ← envelope.read json with
  | some contents => .ok contents.page
  | none => .error (missingContents json)

end Page

end ContentSearch
