import ContentSearch.BoundQuery

/-!
# Sessions

Several queries share one repository.  A repository answers each request with
a page or with a failure of its own; what it answers to the first request, the
second and so on is fixed in advance, and it remembers the requests that it
received.  A session is a repository together with the queries that use it.

Executing a query sends one request.  Showing, copying and remapping a query
send none.
-/

namespace ContentSearch

/-- A repository: its answer to each request by the number of requests before
it, and the requests received so far, in order. -/
structure Repository (Failure : Type) where
  answer : Nat → Except Failure Page
  received : List Request

namespace Repository

variable {Failure : Type}

def fresh (answer : Nat → Except Failure Page) : Repository Failure :=
  ⟨answer, []⟩

/-- Sends a request: the answer that is due, and the repository that has
received the request. -/
def fetch (repository : Repository Failure) (request : Request) :
    Except Failure Page × Repository Failure :=
  (repository.answer repository.received.length,
    { repository with received := repository.received ++ [request] })

end Repository

/-- Sends the request of a query once and maps the records of the answer; a
failure of the repository is passed on. -/
def BoundQuery.execute {Failure Result : Type} (query : BoundQuery Result)
    (repository : Repository Failure) :
    Except Failure (Results Result) × Repository Failure :=
  let (answer, next) := repository.fetch query.request
  (answer.map query.results, next)

/-- A repository and the queries that use it. -/
structure Session (Failure Result : Type) where
  repository : Repository Failure
  queries : List (BoundQuery Result)

/-- What can be done in a session.  Queries are named by their position. -/
inductive Action (Result : Type) where
  | execute (position : Nat)
  /-- Looks at the parts of a query. -/
  | inspect (position : Nat)
  /-- Adds a copy of a query at the end. -/
  | duplicate (position : Nat)
  /-- Gives a query another mapping. -/
  | remap (position : Nat) (mapping : Json → Result)

namespace Action

variable {Result : Type}

def position : Action Result → Nat
  | execute position => position
  | inspect position => position
  | duplicate position => position
  | remap position _ => position

end Action

/-- What an action in a session shows. -/
inductive Outcome (Failure Result : Type) where
  | executed (results : Except Failure (Results Result))
  | inspected (query : BoundQuery Result)
  | done
  /-- There is no query at the position. -/
  | unknown

namespace Session

variable {Failure Result : Type}

def perform (session : Session Failure Result) (query : BoundQuery Result) :
    Action Result → Session Failure Result × Outcome Failure Result
  | .execute _ =>
      let (results, repository) := query.execute session.repository
      ({ session with repository }, .executed results)
  | .inspect _ => (session, .inspected query)
  | .duplicate _ =>
      ({ session with queries := session.queries ++ [query] }, .done)
  | .remap position mapping =>
      ({ session with
          queries := session.queries.set position (query.remap mapping) },
        .done)

/-- The session after an action, and what the action shows.  An action on a
query that does not exist changes nothing. -/
def step (session : Session Failure Result) (action : Action Result) :
    Session Failure Result × Outcome Failure Result :=
  match session.queries[action.position]? with
  | some query => session.perform query action
  | none => (session, .unknown)

/-- The session after a sequence of actions, and what each of them shows. -/
def run (session : Session Failure Result) :
    List (Action Result) →
      Session Failure Result × List (Outcome Failure Result)
  | [] => (session, [])
  | action :: rest =>
      let (next, outcome) := session.step action
      let (last, outcomes) := next.run rest
      (last, outcome :: outcomes)

end Session

end ContentSearch
