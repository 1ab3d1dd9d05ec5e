import ContentSearch.Draft

/-!
# Calls

The steps of writing a query, as data.  A call adds one clause to a draft; the
calls of a nested query are part of the call that adds it.  A sequence of
calls is accepted if each of them fits the stage that it meets, and if every
nested sequence is accepted from the empty draft and ends where a connective
is wanted.
-/

namespace ContentSearch

/-- One step of writing a query. -/
inductive Call where
  | condition (condition : Condition)
  | nest (inner : List Call)
  | negate (inner : List Call)
  | connect (connective : Connective)
  | modify (modifier : Modifier)

namespace Call

mutual

/-- The draft after a call, if the call fits the stage of the draft. -/
def perform : Call → AnyDraft → Option AnyDraft
  | condition restriction, ⟨.wantsRestriction, draft⟩ =>
      some ⟨_, draft.condition restriction⟩
  | nest inner, ⟨.wantsRestriction, draft⟩ =>
      match performAll inner .empty with
      | some ⟨.wantsConnective, nested⟩ => some ⟨_, draft.nest nested⟩
      | _ => none
  | negate inner, ⟨.wantsRestriction, draft⟩ =>
      match performAll inner .empty with
      | some ⟨.wantsConnective, nested⟩ => some ⟨_, draft.negate nested⟩
      | _ => none
  | connect word, ⟨.wantsConnective, draft⟩ =>
      some ⟨_, draft.connect word⟩
  | modify adjustment, ⟨_, draft⟩ => some ⟨_, draft.modify adjustment⟩
  | _, _ => none

/-- The draft after a sequence of calls, if every call fits the stage that it
meets. -/
def performAll : List Call → AnyDraft → Option AnyDraft
  | [], current => some current
  | call :: rest, current =>
      match call.perform current with
      | some next => performAll rest next
      | none => none

end

theorem performAll_append (first second : List Call) (current : AnyDraft) :
    performAll (first ++ second) current =
      (performAll first current).bind (performAll second) := by
  induction first generalizing current with
  | nil => simp [performAll]
  | cons call rest inductionHypothesis =>
      rw [List.cons_append, performAll, performAll]
      cases call.perform current with
      | none => rfl
      | some next => exact inductionHypothesis next

end Call

/-- The draft written by a sequence of calls, if the sequence is accepted. -/
def AnyDraft.ofCalls? (calls : List Call) : Option AnyDraft :=
  Call.performAll calls .empty

end ContentSearch
