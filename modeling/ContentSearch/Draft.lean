import ContentSearch.Clause
import ContentSearch.Fault

/-!
# Drafts

A draft is a query that is being written.  It alternates between two stages:
first a restriction is wanted, a condition or a nested query, and then a
connective, after which a restriction is wanted again.  Modifiers can be added
at both stages.  The stage is part of the type of a draft, so two restrictions
in a row, or a connective at the start, cannot be written down.

A containment condition with an empty path does not stop the writing.  It is
added like any other condition, and the draft keeps the first such fault, its
own or that of a nested query, until the query is bound to a collection.
-/

namespace ContentSearch

/-- What a draft wants next. -/
inductive Stage where
  | wantsRestriction
  | wantsConnective
  deriving DecidableEq

/-- A query that is being written: its clauses in the order of writing, and
the first fault met so far. -/
structure Draft (stage : Stage) where
  clauses : List Clause
  fault : Option Fault

/-- The fault of a condition: a containment condition needs a path. -/
def Condition.fault : Condition → Option Fault
  | inFolder path => if path.isEmpty then some .emptyPath else none
  | inTree path => if path.isEmpty then some .emptyPath else none
  | _ => none

namespace Draft

def empty : Draft .wantsRestriction := ⟨[], none⟩

/-- Adds a clause at the end; its fault counts only if it is the first. -/
def append {stage : Stage} (draft : Draft stage) (next : Stage)
    (clause : Clause) (fault : Option Fault) : Draft next :=
  ⟨draft.clauses ++ [clause], draft.fault.or fault⟩

def condition (draft : Draft .wantsRestriction) (condition : Condition) :
    Draft .wantsConnective :=
  draft.append .wantsConnective (.condition condition) condition.fault

def nest (draft : Draft .wantsRestriction) (inner : Draft .wantsConnective) :
    Draft .wantsConnective :=
  draft.append .wantsConnective (.nested inner.clauses) inner.fault

/-- Adds a nested query whose result is excluded. -/
def negate (draft : Draft .wantsRestriction)
    (inner : Draft .wantsConnective) : Draft .wantsConnective :=
  draft.append .wantsConnective (.negated inner.clauses) inner.fault

def connect (draft : Draft .wantsConnective) (connective : Connective) :
    Draft .wantsRestriction :=
  draft.append .wantsRestriction (.connective connective) none

/-- Adds a modifier, at either stage. -/
def modify {stage : Stage} (draft : Draft stage) (modifier : Modifier) :
    Draft stage :=
  draft.append stage (.modifier modifier) none

/-- Succeeds exactly for a draft without fault. -/
def check {stage : Stage} (draft : Draft stage) : Except Fault Unit :=
  match draft.fault with
  | none => .ok ()
  | some fault => .error fault

def same {stage : Stage} (first second : Draft stage) : Bool :=
  Clause.sameList first.clauses second.clauses && first.fault == second.fault

@[simp]
theorem clauses_append {stage : Stage} (draft : Draft stage) (next : Stage)
    (clause : Clause) (fault : Option Fault) :
    (draft.append next clause fault).clauses = draft.clauses ++ [clause] :=
  rfl

@[simp]
theorem fault_append {stage : Stage} (draft : Draft stage) (next : Stage)
    (clause : Clause) (fault : Option Fault) :
    (draft.append next clause fault).fault = draft.fault.or fault :=
  rfl

theorem check_eq_error_iff {stage : Stage} (draft : Draft stage)
    (fault : Fault) : draft.check = .error fault ↔ draft.fault = some fault := by
  unfold check
  cases draft.fault <;> simp

theorem check_eq_ok_iff {stage : Stage} (draft : Draft stage) :
    draft.check = .ok () ↔ draft.fault = none := by
  unfold check
  cases draft.fault <;> simp

end Draft

/-- A draft together with its stage. -/
structure AnyDraft where
  stage : Stage
  draft : Draft stage

namespace AnyDraft

def empty : AnyDraft := ⟨_, Draft.empty⟩

def clauses (current : AnyDraft) : List Clause :=
  current.draft.clauses

def fault (current : AnyDraft) : Option Fault :=
  current.draft.fault

def same : AnyDraft → AnyDraft → Bool
  | ⟨.wantsRestriction, first⟩, ⟨.wantsRestriction, second⟩ =>
      first.same second
  | ⟨.wantsConnective, first⟩, ⟨.wantsConnective, second⟩ =>
      first.same second
  | _, _ => false

end AnyDraft

end ContentSearch
