/-!
# Faults

A query can be refused for two reasons: a containment or collection path is
missing, or a path cannot be turned into the address of an item.  This module
holds the two causes and the sentence that reports each of them.
-/

namespace ContentSearch

/-- The reason why a query or an address is refused. -/
inductive Fault where
  /-- A path was required and the given one is empty. -/
  | emptyPath
  /-- The path does not address a content item. -/
  | invalidPath (path : String)
  deriving DecidableEq

namespace Fault

def message : Fault → String
  | emptyPath => "No Path provided"
  | invalidPath path => "invalid content path: " ++ path

end Fault

end ContentSearch
