/-!
# Choices of a request

How much a response tells about the types of its fields, and whether it counts
the results that are not on the page.  Each choice has a name under which it
is sent and stored.
-/

namespace ContentSearch

/-- How much a response tells about the types of its fields. -/
inductive Metadata where
  | no
  | minimal
  | full
  deriving DecidableEq

/-- Whether a response counts the results of all pages. -/
inductive InlineCount where
  | allPages
  | uncounted
  deriving DecidableEq

namespace Metadata

def standard : Metadata := no

def name : Metadata → String
  | no => "no"
  | minimal => "minimal"
  | full => "full"

def choices : List (String × Metadata) :=
  [no, minimal, full].map fun choice => (choice.name, choice)

end Metadata

namespace InlineCount

def standard : InlineCount := allPages

def name : InlineCount → String
  | allPages => "allpages"
  | uncounted => "none"

def choices : List (String × InlineCount) :=
  [allPages, uncounted].map fun choice => (choice.name, choice)

end InlineCount

end ContentSearch
