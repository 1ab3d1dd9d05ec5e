import ContentSearch.Picker
import ContentSearch.Proofs.DeferredFault
import ContentSearch.Session

/-!
# Binding queries

Binding refuses a query for one reason only, a missing path: that of the
collection, which is looked at before the query is written, or one inside the
query, at any depth.  This file says exactly when a query is bound, for a query
that a caller writes, for one that starts at a content item and for the search
of a picker.

A bound query keeps what it was bound with, however often it is copied and
remapped.  Its path is there, so its request has an address under all settings.
-/

namespace ContentSearch

namespace BoundQuery

/-- What comes of a query by remapping, any number of times and with results of
any types.  A copy of a query is the query itself. -/
inductive Version {Result : Type} (query : BoundQuery Result) :
    (Other : Type) → BoundQuery Other → Prop where
  | original : Version query Result query
  | remapped {Other Next : Type} {earlier : BoundQuery Other}
      (version : Version query Other earlier) (mapping : Json → Next) :
      Version query Next (earlier.remap mapping)

theorem Version.parts {Result Other : Type} {query : BoundQuery Result}
    {later : BoundQuery Other} (version : query.Version Other later) :
    later.clauses = query.clauses ∧ later.path = query.path ∧
      later.options = query.options := by
  induction version with
  | original => exact ⟨rfl, rfl, rfl⟩
  | remapped version mapping inductionHypothesis => exact inductionHypothesis

/-- The outcome of binding: if the condition holds, a query that keeps these
parts in all of its versions and has an address under all settings, and
otherwise the fault of a missing path. -/
structure BindsIf (condition : Prop) (clauses : List Clause) (path : String)
    (options : Option Options) (outcome : Except Fault (BoundQuery Json)) :
    Prop where
  exists_iff : (∃ query, outcome = .ok query) ↔ condition
  fault : ¬ condition → outcome = .error .emptyPath
  keeps : ∀ query, outcome = .ok query →
    ∀ (Other : Type) (later : BoundQuery Other), query.Version Other later →
      later.clauses = clauses ∧ later.path = path ∧ later.options = options ∧
        later.request = ⟨path, Clause.listText clauses, options⟩ ∧
          ∀ settings, ∃ url, later.request.url settings = .ok url

/-- A draft bound to a path that is not missing. -/
def ofDraft (written : AnyDraft) (path : String) (options : Option Options) :
    Except Fault (BoundQuery Json) :=
  match written.fault with
  | some fault => .error fault
  | none => .ok ⟨written.clauses, path, options, id⟩

/-- A missing path is reported before the query is written. -/
theorem bind_eq {m : Type → Type} [Monad m] (write : m AnyDraft)
    (location : Location) (options : Option Options) :
    bind write location options =
      if location.path = "" then pure (.error .emptyPath)
      else write >>= fun written =>
        pure (ofDraft written location.path options) := by
  unfold bind Location.required
  by_cases missing : location.path = ""
  · simp [missing]
  · have given : location.isMissing = false := by
      rwa [← Bool.not_eq_true, Location.isMissing_eq_true_iff]
    simp only [given, missing, Bool.false_eq_true, if_false]
    congr
    funext written
    unfold ofDraft
    cases written.fault <;> rfl

theorem run_bind {World : Type} (write : StateM World AnyDraft)
    (location : Location) (options : Option Options) (world : World) :
    (bind write location options).run world =
      if location.path = "" then (.error .emptyPath, world)
      else (ofDraft (write.run world).1 location.path options,
        (write.run world).2) := by
  rw [bind_eq]
  split <;> rfl

/-- A draft is bound to a path if it has no fault. -/
theorem bindsIf_of_fault_iff (written : AnyDraft) {sound : Prop}
    (faultless : written.fault = none ↔ sound)
    (missingOnly : ∀ fault, written.fault = some fault → fault = .emptyPath)
    (path : String) (options : Option Options) :
    BindsIf (path ≠ "" ∧ sound) written.clauses path options
      (if path = "" then .error .emptyPath
        else ofDraft written path options) := by
  unfold ofDraft
  by_cases missing : path = ""
  · refine ⟨?_, ?_, ?_⟩ <;> simp [missing]
  · cases found : written.fault with
    | some fault =>
        obtain rfl := missingOnly fault found
        have unsound : ¬ sound := by
          simpa [found] using faultless.symm
        refine ⟨?_, ?_, ?_⟩ <;> simp [missing, unsound]
    | none =>
        have isSound : sound := faultless.mp found
        refine ⟨?_, ?_, ?_⟩
        · simp [missing, isSound]
        · exact fun refused => absurd ⟨missing, isSound⟩ refused
        · intro query bound Other later version
          simp only [missing, if_false, Except.ok.injEq] at bound
          obtain ⟨clauses, laterPath, laterOptions⟩ := version.parts
          subst bound
          have requestEq : later.request =
              ⟨path, Clause.listText written.clauses, options⟩ := by
            rw [request, text, clauses, laterPath, laterOptions]
          refine ⟨clauses, laterPath, laterOptions, requestEq, ?_⟩
          intro settings
          rw [Request.exists_url_eq_ok_iff, requestEq]
          exact missing

end BoundQuery

namespace Picker

theorem fault_foldl_alternative (condition : String → Condition)
    (items : List String) (draft : Draft .wantsConnective) :
    (items.foldl (alternative condition) draft).fault =
      draft.fault.or (items.findSome? fun item => (condition item).fault) := by
  induction items generalizing draft with
  | nil => simp
  | cons item rest inductionHypothesis =>
      rw [List.foldl_cons, inductionHypothesis, List.findSome?_cons]
      simp only [alternative, Draft.condition, Draft.connect,
        Draft.fault_append, Option.or_none, Option.or_assoc]
      cases (condition item).fault <;> rfl

theorem fault_restrict_alternatives (condition : String → Condition)
    (items : List String) (draft : Draft .wantsConnective) :
    (restrict draft (alternatives? items condition)).fault =
      draft.fault.or (items.findSome? fun item => (condition item).fault) := by
  cases items with
  | nil => simp [alternatives?, restrict]
  | cons first rest =>
      simp only [alternatives?, restrict, Draft.nest, Draft.connect,
        Draft.fault_append, fault_foldl_alternative, Draft.condition,
        Draft.empty, Option.or_none, Option.none_or, List.findSome?_cons]
      cases (condition first).fault <;> rfl

/-- The search of a picker adds the fault of a missing path if a subtree has
the empty path, and no other. -/
theorem fault_write (picker : Picker) (draft : Draft .wantsRestriction) :
    (picker.write draft).fault =
      draft.fault.or (if "" ∈ picker.roots then some .emptyPath else none) := by
  have roots : picker.roots.findSome?
        (fun root => (Condition.inTree root).fault) =
      if "" ∈ picker.roots then some .emptyPath else none := by
    induction picker.roots with
    | nil => rfl
    | cons root rest inductionHypothesis =>
        rw [List.findSome?_cons, inductionHypothesis]
        by_cases missing : root = ""
        · simp [Condition.fault, missing]
        · simp [Condition.fault, missing, Ne.symm missing]
  have types : picker.types.findSome?
      (fun name => (Condition.ofType name).fault) = none := by
    simp [List.findSome?_eq_none_iff, Condition.fault]
  have searchedText : picker.searched.fault = none := rfl
  simp only [write, Draft.modify, Draft.fault_append,
    fault_restrict_alternatives, roots, types, Draft.condition, searchedText,
    Option.or_none]

theorem bind_eq (picker : Picker) (settings : Settings) :
    picker.bind settings =
      if settings.rootPath = "" then .error .emptyPath
      else BoundQuery.ofDraft ⟨_, picker.write Draft.empty⟩ settings.rootPath
        (some .ofEverything) := by
  rw [bind, BoundQuery.bind_eq]
  split <;> rfl

end Picker

namespace BoundQuery

/-- A query whose calls are accepted is bound if the path of the collection is
given and the query lacks none; all that happens besides is what happens in
writing it, and that only if the path of the collection is given.  The path of
an item may be missing, which counts as empty.  Nothing is fetched.  The search
of a picker is bound if the root path and all subtrees are given. -/
theorem bindsIf_paths_given :
    (∀ {World : Type} (write : StateM World AnyDraft) (world : World) calls,
      AnyDraft.ofCalls? calls = some (write.run world).1 →
        (∀ (location : Location) options,
          BindsIf (location.path ≠ "" ∧
              ¬ Clause.LacksPath (write.run world).1.clauses)
            (write.run world).1.clauses location.path options
            ((bind write location options).run world).1 ∧
          ((bind write location options).run world).2 =
            if location.path = "" then world else (write.run world).2) ∧
        ∀ (item : ContentItem) options,
          BindsIf (item.path.getD "" ≠ "" ∧
              ¬ Clause.LacksPath (write.run world).1.clauses)
            (write.run world).1.clauses (item.path.getD "") options
            ((bindToItem write item options).run world).1 ∧
          ((bindToItem write item options).run world).2 =
            if item.path.getD "" = "" then world else (write.run world).2) ∧
    (∀ {Failure : Type} (repository : Repository Failure) (draft : AnyDraft)
      location options,
        ((bind (pure draft : StateM (Repository Failure) AnyDraft)
          location options).run repository).2 = repository) ∧
    ∀ (picker : Picker) (settings : Settings),
      BindsIf (settings.rootPath ≠ "" ∧ ∀ root ∈ picker.roots, root ≠ "")
        (picker.write Draft.empty).clauses settings.rootPath
        (some .ofEverything) (picker.bind settings) := by
  have binds {World : Type} (write : StateM World AnyDraft) (world : World)
      {calls : List Call}
      (accepted : AnyDraft.ofCalls? calls = some (write.run world).1)
      (location : Location) (options : Option Options) :
      BindsIf (location.path ≠ "" ∧
            ¬ Clause.LacksPath (write.run world).1.clauses)
          (write.run world).1.clauses location.path options
          ((bind write location options).run world).1 ∧
        ((bind write location options).run world).2 =
          if location.path = "" then world else (write.run world).2 := by
    have written := (AnyDraft.ofCalls?_eq_some_iff calls _).mp accepted
    have outcome := bindsIf_of_fault_iff _ written.fault_eq_none_iff
      (fun fault found => ((written.fault_eq_some_iff fault).mp found).1)
      location.path options
    rw [run_bind]
    by_cases missing : location.path = "" <;>
      simpa [missing] using outcome
  refine ⟨?_, ?_, ?_⟩
  · intro World write world calls accepted
    refine ⟨binds write world accepted, ?_⟩
    intro item options
    exact binds write world accepted (.ofItem item) options
  · intro Failure repository draft location options
    rw [run_bind]
    split <;> rfl
  · intro picker settings
    have faultEq : AnyDraft.fault ⟨_, picker.write Draft.empty⟩ =
        if "" ∈ picker.roots then some .emptyPath else none :=
      picker.fault_write Draft.empty
    rw [picker.bind_eq]
    refine bindsIf_of_fault_iff ⟨_, picker.write Draft.empty⟩ ?_ ?_ _ _
    · rw [faultEq]
      simp [← List.forall_mem_ne']
    · intro fault found
      have isMissing : "" ∈ picker.roots ∧ .emptyPath = fault := by
        simpa [faultEq] using found
      exact isMissing.2.symm

/-- Tasks in a subtree: the query is written once and bound to the path of a
collection, and it is not written for a collection without a path. -/
theorem bindsIf_of_tasks_in_tree :
    ∃ draft query,
      AnyDraft.ofCalls? [.condition (.ofType "Task"), .connect .and,
        .nest [.condition (.inTree "/Root")]] = some draft ∧
      (bind (modifyGet fun _ => (draft, true) : StateM Bool AnyDraft)
        ⟨"/Root/Sites"⟩ none).run false = (.ok query, true) ∧
      (∃ url, (query.remap fun _ => 0).request.url .standard = .ok url) ∧
      (bind (modifyGet fun _ => (draft, true) : StateM Bool AnyDraft)
        ⟨""⟩ none).run false = (.error .emptyPath, false) := by
  have accepted : AnyDraft.ofCalls? [.condition (.ofType "Task"),
      .connect .and, .nest [.condition (.inTree "/Root")]] = some _ := rfl
  obtain ⟨ofLocation, -⟩ := bindsIf_paths_given.1
    (modifyGet fun _ => (_, true) : StateM Bool AnyDraft) false _ accepted
  have complete : ¬ Clause.LacksPath _ :=
    ((AnyDraft.ofCalls?_eq_some_iff _ _).mp accepted).fault_eq_none_iff.mp rfl
  obtain ⟨atSites, run⟩ := ofLocation ⟨"/Root/Sites"⟩ none
  obtain ⟨query, bound⟩ := atSites.exists_iff.mpr ⟨by decide, complete⟩
  obtain ⟨-, -, -, -, hasUrl⟩ := atSites.keeps query bound _ _
    (.remapped .original fun _ => 0)
  obtain ⟨nowhere, unchanged⟩ := ofLocation ⟨""⟩ none
  refine ⟨_, query, accepted, Prod.ext bound run, hasUrl _, ?_⟩
  exact Prod.ext (nowhere.fault (by simp)) unchanged

end BoundQuery

end ContentSearch
