import ContentSearch.Session
import Mathlib.Data.List.Basic

/-!
# Runs of sessions

Which query an execution sends, and how it maps the answer, does not depend on
what the repository answered before.  So it can be told from the actions alone:
a query goes back to one that was there at the start, and has the mapping that
was given last to it or to the query that it was copied from.  This file tells
a run in that way.

The repository receives the requests of the executed queries and no others.
The answer to each execution is that of its own turn, and a failure is only
the answer to the execution that meets it.

Queries with results of several types are queries with results in the sum of
these types.
-/

namespace ContentSearch

/-- Where a query of a session comes from: the query at the start that it goes
back to, and the mapping that it was given last. -/
structure Lineage (Result : Type) where
  origin : BoundQuery Result
  mapping : Json → Result

namespace Lineage

variable {Result : Type}

def ofQuery (query : BoundQuery Result) : Lineage Result :=
  ⟨query, query.mapping⟩

def query (lineage : Lineage Result) : BoundQuery Result :=
  lineage.origin.remap lineage.mapping

/-- The lineages of all queries after an action. -/
def after (lineages : List (Lineage Result)) :
    Action Result → List (Lineage Result)
  | .execute _ => lineages
  | .inspect _ => lineages
  | .duplicate position => lineages ++ lineages[position]?.toList
  | .remap position mapping =>
      lineages.modify position fun lineage => { lineage with mapping }

def afterAll (lineages : List (Lineage Result))
    (actions : List (Action Result)) : List (Lineage Result) :=
  actions.foldl after lineages

/-- The lineage of the query that an action executes, if it executes one. -/
def executedBy? (lineages : List (Lineage Result)) :
    Action Result → Option (Lineage Result)
  | .execute position => lineages[position]?
  | _ => none

/-- The lineages of the queries that a sequence of actions executes, in the
order of their execution. -/
def executed : List (Lineage Result) → List (Action Result) →
    List (Lineage Result)
  | _, [] => []
  | lineages, action :: rest =>
      (executedBy? lineages action).toList ++
        executed (after lineages action) rest

/-- What an execution yields from the answer of the repository. -/
def results {Failure : Type} (lineage : Lineage Result) :
    Except Failure Page → Except Failure (Results Result)
  | .ok page => .ok ⟨page.total, page.items.map lineage.mapping⟩
  | .error failure => .error failure

@[simp]
theorem query_ofQuery (query : BoundQuery Result) :
    (ofQuery query).query = query :=
  rfl

theorem map_query_map_ofQuery (queries : List (BoundQuery Result)) :
    (queries.map ofQuery).map query = queries := by
  simp [Function.comp_def]

@[simp]
theorem request_query (lineage : Lineage Result) :
    lineage.query.request = lineage.origin.request :=
  rfl

theorem query_remap (lineage : Lineage Result) (mapping : Json → Result) :
    lineage.query.remap mapping = { lineage with mapping }.query :=
  rfl

theorem after_eq_self_of_unknown {lineages : List (Lineage Result)}
    {action : Action Result} (unknown : lineages[action.position]? = none) :
    after lineages action = lineages := by
  cases action with
  | execute position => rfl
  | inspect position => rfl
  | duplicate position =>
      have unknownSource : lineages[position]? = none := unknown
      simp [after, unknownSource]
  | remap position mapping =>
      exact List.modify_eq_self (List.getElem?_eq_none_iff.mp unknown)

theorem executedBy?_eq_none_of_unknown {lineages : List (Lineage Result)}
    {action : Action Result} (unknown : lineages[action.position]? = none) :
    executedBy? lineages action = none := by
  cases action with
  | execute position => exact unknown
  | inspect position => rfl
  | duplicate position => rfl
  | remap position mapping => rfl

theorem length_le_after (lineages : List (Lineage Result))
    (action : Action Result) :
    lineages.length ≤ (after lineages action).length := by
  cases action <;> simp [after]

/-- Only a mapping that is given to the query itself changes where it comes
from. -/
theorem getElem?_after {lineages : List (Lineage Result)} {position : Nat}
    (present : position < lineages.length) {action : Action Result}
    (others : ∀ mapping, action ≠ .remap position mapping) :
    (after lineages action)[position]? = lineages[position]? := by
  cases action with
  | execute source => rfl
  | inspect source => rfl
  | duplicate source => exact List.getElem?_append_left present
  | remap changed mapping =>
      have different : changed ≠ position := by
        rintro rfl
        exact others mapping rfl
      exact List.getElem?_modify_ne _ _ different

theorem getElem?_afterAll {lineages : List (Lineage Result)} {position : Nat}
    (present : position < lineages.length) {actions : List (Action Result)}
    (others : ∀ mapping, .remap position mapping ∉ actions) :
    (afterAll lineages actions)[position]? = lineages[position]? := by
  induction actions generalizing lineages with
  | nil => rfl
  | cons action rest inductionHypothesis =>
      have stillPresent : position < (after lineages action).length :=
        Nat.lt_of_lt_of_le present (length_le_after lineages action)
      have kept : (after lineages action)[position]? = lineages[position]? :=
        getElem?_after present fun mapping equal =>
          others mapping (equal ▸ List.mem_cons_self)
      exact (inductionHypothesis stillPresent fun mapping later =>
        others mapping (List.mem_cons_of_mem action later)).trans kept

theorem origin_mem_of_mem_after {lineages : List (Lineage Result)}
    {queries : List (BoundQuery Result)}
    (known : ∀ lineage ∈ lineages, lineage.origin ∈ queries)
    (action : Action Result) :
    ∀ lineage ∈ after lineages action, lineage.origin ∈ queries := by
  intro lineage member
  cases action with
  | execute position => exact known lineage member
  | inspect position => exact known lineage member
  | duplicate position =>
      rcases List.mem_append.mp member with earlier | copied
      · exact known lineage earlier
      · exact known lineage
          (List.mem_of_getElem? (Option.mem_toList.mp copied))
  | remap position mapping =>
      obtain ⟨index, found⟩ := List.mem_iff_getElem?.mp member
      rw [after, List.getElem?_modify, Option.map_eq_map,
        Option.map_eq_some_iff] at found
      obtain ⟨source, foundSource, rfl⟩ := found
      have sourceKnown := known source (List.mem_of_getElem? foundSource)
      by_cases changed : position = index <;> simpa [changed] using sourceKnown

theorem origin_mem_of_mem_executed {lineages : List (Lineage Result)}
    {queries : List (BoundQuery Result)}
    (known : ∀ lineage ∈ lineages, lineage.origin ∈ queries)
    (actions : List (Action Result)) :
    ∀ lineage ∈ executed lineages actions, lineage.origin ∈ queries := by
  induction actions generalizing lineages with
  | nil => simp [executed]
  | cons action rest inductionHypothesis =>
      intro lineage member
      rcases List.mem_append.mp member with now | later
      · cases action with
        | execute position =>
            exact known lineage
              (List.mem_of_getElem? (Option.mem_toList.mp now))
        | inspect position => cases now
        | duplicate position => cases now
        | remap position mapping => cases now
      · exact inductionHypothesis (origin_mem_of_mem_after known action)
          lineage later

/-- A query has the mapping that was given to it last. -/
theorem mapping_after_remap {lineages : List (Lineage Result)} {position : Nat}
    (present : position < lineages.length) (mapping : Json → Result)
    {later : List (Action Result)}
    (last : ∀ other, .remap position other ∉ later) :
    (afterAll lineages (.remap position mapping :: later))[position]? =
      some ⟨lineages[position].origin, mapping⟩ := by
  have stillPresent : position <
      (after lineages (.remap position mapping)).length :=
    Nat.lt_of_lt_of_le present (length_le_after _ _)
  calc
    _ = (after lineages (.remap position mapping))[position]? :=
      getElem?_afterAll stillPresent last
    _ = some ⟨lineages[position].origin, mapping⟩ := by
      simp [after, present]

/-- A copy has the mapping of its source until it is given one. -/
theorem lineage_after_duplicate {lineages : List (Lineage Result)}
    {source : Nat} (present : source < lineages.length)
    {later : List (Action Result)}
    (unchanged : ∀ mapping, .remap lineages.length mapping ∉ later) :
    (afterAll lineages (.duplicate source :: later))[lineages.length]? =
      some lineages[source] := by
  have added : after lineages (.duplicate source) =
      lineages ++ [lineages[source]] := by
    simp [after, present]
  calc
    _ = (after lineages (.duplicate source))[lineages.length]? :=
      getElem?_afterAll (by simp [added]) unchanged
    _ = some lineages[source] := by
      simp [added]

end Lineage

/-- The results that an action shows, if it is an execution. -/
def Outcome.results? {Failure Result : Type} :
    Outcome Failure Result → Option (Except Failure (Results Result))
  | executed results => some results
  | _ => none

namespace Session

variable {Failure Result : Type}

/-- What an action does to a session in which the queries have these
lineages. -/
structure StepEffect (session : Session Failure Result)
    (lineages : List (Lineage Result)) (action : Action Result) : Prop where
  queries : (session.step action).1.queries =
    (Lineage.after lineages action).map Lineage.query
  answer : (session.step action).1.repository.answer =
    session.repository.answer
  received : (session.step action).1.repository.received =
    session.repository.received ++
      ((Lineage.executedBy? lineages action).map
        fun lineage => lineage.query.request).toList
  results : (session.step action).2.results? =
    (Lineage.executedBy? lineages action).map fun lineage =>
      lineage.results
        (session.repository.answer session.repository.received.length)

theorem stepEffect {session : Session Failure Result}
    {lineages : List (Lineage Result)}
    (same : session.queries = lineages.map Lineage.query)
    (action : Action Result) : session.StepEffect lineages action := by
  cases found : lineages[action.position]? with
  | none =>
      have unknown : session.step action = (session, .unknown) := by
        simp [step, same, found]
      have noExecution := Lineage.executedBy?_eq_none_of_unknown found
      have unchanged := Lineage.after_eq_self_of_unknown found
      constructor <;> simp [unknown, noExecution, unchanged, same,
        Outcome.results?]
  | some lineage =>
      have known : session.step action =
          session.perform lineage.query action := by
        simp [step, same, found]
      cases action with
      | execute position =>
          have here : lineages[position]? = some lineage := found
          refine ⟨?_, ?_, ?_, ?_⟩
          · rw [known]
            exact same
          · rw [known]
            rfl
          · rw [known, Lineage.executedBy?, here]
            rfl
          · rw [known, Lineage.executedBy?, here, perform, BoundQuery.execute,
              Repository.fetch]
            cases session.repository.answer
              session.repository.received.length <;> rfl
      | inspect position =>
          constructor <;> simp [known, perform, same, Lineage.after,
            Lineage.executedBy?, Outcome.results?]
      | duplicate position =>
          have here : lineages[position]? = some lineage := found
          constructor <;> simp [known, perform, same, here, Lineage.after,
            Lineage.executedBy?, Outcome.results?]
      | remap position mapping =>
          have here : lineages[position]? = some lineage := found
          have set : (lineages.map Lineage.query).set position
                (lineage.query.remap mapping) =
              (Lineage.after lineages (.remap position mapping)).map
                Lineage.query := by
            rw [Lineage.query_remap, ← List.map_set, Lineage.after,
              List.modify_eq_set_getElem?, here]
            rfl
          constructor <;> simp [known, perform, same, set,
            Lineage.executedBy?, Outcome.results?]

/-- What a run of a session does in which the queries have these lineages. -/
structure RunEffect (session : Session Failure Result)
    (lineages : List (Lineage Result)) (actions : List (Action Result)) :
    Prop where
  queries : (session.run actions).1.queries =
    (Lineage.afterAll lineages actions).map Lineage.query
  answer : (session.run actions).1.repository.answer =
    session.repository.answer
  received : (session.run actions).1.repository.received =
    session.repository.received ++
      (Lineage.executed lineages actions).map fun lineage =>
        lineage.query.request
  results : (session.run actions).2.filterMap Outcome.results? =
    (Lineage.executed lineages actions).mapIdx fun turn lineage =>
      lineage.results (session.repository.answer
        (session.repository.received.length + turn))

theorem runEffect {session : Session Failure Result}
    {lineages : List (Lineage Result)}
    (same : session.queries = lineages.map Lineage.query)
    (actions : List (Action Result)) : session.RunEffect lineages actions := by
  induction actions generalizing session lineages with
  | nil => exact ⟨same, rfl, by simp [run, Lineage.executed], rfl⟩
  | cons action rest inductionHypothesis =>
      have first := stepEffect same action
      have later := inductionHypothesis first.queries
      refine ⟨later.queries, later.answer.trans first.answer, ?_, ?_⟩
      · calc
          _ = (session.step action).1.repository.received ++ _ :=
            later.received
          _ = _ := by
            rw [first.received]
            cases found : Lineage.executedBy? lineages action <;>
              simp [Lineage.executed, found]
      · have answers := later.results
        rw [first.answer, first.received] at answers
        rw [run, List.filterMap_cons, first.results, answers]
        cases found : Lineage.executedBy? lineages action with
        | none => simp [Lineage.executed, found]
        | some lineage =>
            simp [Lineage.executed, found, List.mapIdx_cons,
              Nat.add_assoc, Nat.add_comm 1]

/-- A query that is there after a run has a lineage, and the lineages tell what
becomes of the queries later. -/
theorem queries_run_append {start : Session Failure Result}
    {earlier : List (Action Result)} {position : Nat}
    {query : BoundQuery Result}
    (found : (start.run earlier).1.queries[position]? = some query)
    (later : List (Action Result)) :
    ∃ (lineages : List (Lineage Result))
      (present : position < lineages.length),
      lineages[position].query = query ∧
      lineages.length = (start.run earlier).1.queries.length ∧
      (start.run (earlier ++ later)).1.queries =
        (Lineage.afterAll lineages later).map Lineage.query := by
  have same := (Lineage.map_query_map_ofQuery start.queries).symm
  have now := (runEffect same earlier).queries
  rw [now, List.getElem?_map, Option.map_eq_some_iff] at found
  obtain ⟨lineage, foundLineage, rfl⟩ := found
  obtain ⟨present, rfl⟩ := List.getElem?_eq_some_iff.mp foundLineage
  refine ⟨_, present, rfl, ?_, ?_⟩
  · rw [now, List.length_map]
  · rw [(runEffect same _).queries, Lineage.afterAll, List.foldl_append]
    rfl

/-- The repository receives the requests of the executed queries, in the order
of their execution, and nothing else; the request is that of the query at the
start that the executed one goes back to.  Each execution yields the answer of
its own turn: the number of results and the items in their order, each mapped
once, or the failure of the repository.  A query has the mapping that was given
to it last, and a copy that of its source until it is given one. -/
theorem received_and_results_of_run (answer : Nat → Except Failure Page)
    (queries : List (BoundQuery Result)) :
    let start : Session Failure Result := ⟨.fresh answer, queries⟩
    let lineages := queries.map Lineage.ofQuery
    (∀ actions,
      let executed := Lineage.executed lineages actions
      (start.run actions).1.queries =
        (Lineage.afterAll lineages actions).map Lineage.query ∧
      (start.run actions).1.repository.received =
        executed.map (fun lineage => lineage.query.request) ∧
      (∀ lineage ∈ executed, lineage.origin ∈ queries ∧
        lineage.query.request = lineage.origin.request) ∧
      (start.run actions).2.filterMap Outcome.results? =
        executed.mapIdx fun turn lineage => lineage.results (answer turn)) ∧
    (∀ earlier position query mapping later,
      (start.run earlier).1.queries[position]? = some query →
      (∀ other, .remap position other ∉ later) →
      (start.run (earlier ++ .remap position mapping :: later)).1.queries[
        position]? = some (query.remap mapping)) ∧
    ∀ earlier source query later,
      (start.run earlier).1.queries[source]? = some query →
      (∀ mapping,
        .remap (start.run earlier).1.queries.length mapping ∉ later) →
      (start.run (earlier ++ .duplicate source :: later)).1.queries[
        (start.run earlier).1.queries.length]? = some query := by
  intro start lineages
  have same : start.queries = lineages.map Lineage.query :=
    (Lineage.map_query_map_ofQuery queries).symm
  refine ⟨?_, ?_, ?_⟩
  · intro actions executed
    have effect := runEffect same actions
    have known : ∀ lineage ∈ lineages, lineage.origin ∈ queries := by
      simp [lineages, Lineage.ofQuery]
    have origins := Lineage.origin_mem_of_mem_executed known actions
    refine ⟨effect.queries, effect.received, ?_, ?_⟩
    · intro lineage member
      exact ⟨origins lineage member, lineage.request_query⟩
    · simpa [start, Repository.fresh] using effect.results
  · intro earlier position query mapping later found last
    obtain ⟨current, present, rfl, -, reached⟩ :=
      queries_run_append found (.remap position mapping :: later)
    rw [reached, List.getElem?_map,
      Lineage.mapping_after_remap present mapping last]
    rfl
  · intro earlier source query later found unchanged
    obtain ⟨current, present, rfl, length, reached⟩ :=
      queries_run_append found (.duplicate source :: later)
    rw [← length] at unchanged ⊢
    rw [reached, List.getElem?_map,
      Lineage.lineage_after_duplicate present unchanged]
    rfl

/-- Two executions, of which the second fails, and a third by a copy that has
got another mapping since. -/
theorem results_of_remapped_copy :
    let query : BoundQuery Nat := ⟨[], "/Root", none, fun _ => 0⟩
    let answer : Nat → Except String Page := fun turn =>
      if turn = 1 then .error "unavailable" else .ok ⟨9, [.null, .truth true]⟩
    let start : Session String Nat := ⟨.fresh answer, [query]⟩
    let last := start.run [.execute 0, .duplicate 0, .execute 1, .inspect 0,
      .remap 1 fun _ => 1, .remap 1 fun _ => 2, .execute 1]
    last.1.repository.received = [query.request, query.request, query.request] ∧
      last.2.filterMap Outcome.results? =
        [.ok ⟨9, [0, 0]⟩, .error "unavailable", .ok ⟨9, [2, 2]⟩] ∧
      last.1.queries[1]? = some (query.remap fun _ => 2) ∧
      (start.run [.duplicate 0, .remap 0 fun _ => 2]).1.queries[1]? =
        some query := by
  intro query answer start last
  obtain ⟨ofRun, ofRemap, ofCopy⟩ := received_and_results_of_run answer [query]
  obtain ⟨-, received, -, results⟩ := ofRun [.execute 0, .duplicate 0,
    .execute 1, .inspect 0, .remap 1 fun _ => 1, .remap 1 fun _ => 2,
    .execute 1]
  refine ⟨received, results, ?_, ?_⟩
  · exact ofRemap [.execute 0, .duplicate 0, .execute 1, .inspect 0,
      .remap 1 fun _ => 1] 1 (query.remap fun _ => 1) (fun _ => 2)
      [.execute 1] rfl (by simp)
  · exact ofCopy [] 0 query [.remap 0 fun _ => 2] rfl (by
      intro mapping
      simp [run])

end Session

end ContentSearch
