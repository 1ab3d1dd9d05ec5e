import ContentSearch.Proofs.Surroundings
import ContentSearch.Proofs.Writing

/-!
# The fault of a draft

A draft carries its fault beside its clauses, and every way of writing has to
hand it on.  This file shows that the two never disagree: the fault of a draft
is that of a missing path, and the draft has it exactly if a containment
condition without a path stands somewhere among its clauses, at any depth.
What a draft has once is neither lost by a later call nor by the queries in
which the draft is nested, and the faulty condition is written out all the
same.
-/

namespace ContentSearch

theorem Condition.fault_eq_some_iff (restriction : Condition)
    (fault : Fault) :
    restriction.fault = some fault ↔
      fault = .emptyPath ∧
        (restriction = .inFolder "" ∨ restriction = .inTree "") := by
  unfold Condition.fault
  cases restriction with
  | inFolder path =>
      by_cases missing : path = "" <;>
        simp [missing, @eq_comm _ Fault.emptyPath]
  | inTree path =>
      by_cases missing : path = "" <;>
        simp [missing, @eq_comm _ Fault.emptyPath]
  | _ => simp

namespace Clause

/-- A containment condition with the empty path stands in the query, at some
depth. -/
def LacksPath (clauses : List Clause) : Prop :=
  Occurs (condition (.inFolder "")) clauses ∨
    Occurs (condition (.inTree "")) clauses

theorem not_lacksPath_nil : ¬ LacksPath [] := by
  simp [LacksPath, Occurs, sequences, listInnerSequences]

theorem lacksPath_cons_iff (clause : Clause) (rest : List Clause) :
    LacksPath (clause :: rest) ↔ LacksPath [clause] ∨ LacksPath rest := by
  unfold LacksPath
  rw [occurs_cons_iff, occurs_cons_iff _ clause rest, or_or_or_comm]

theorem lacksPath_condition_iff (restriction : Condition) :
    LacksPath [condition restriction] ↔
      restriction = .inFolder "" ∨ restriction = .inTree "" := by
  simp [LacksPath, Occurs, sequences, listInnerSequences, innerSequences,
    eq_comm]

theorem lacksPath_nested_iff (inner : List Clause) :
    LacksPath [nested inner] ↔ LacksPath inner := by
  simp [LacksPath, Occurs, sequences, listInnerSequences, innerSequences]

theorem lacksPath_negated_iff (inner : List Clause) :
    LacksPath [negated inner] ↔ LacksPath inner := by
  simp [LacksPath, Occurs, sequences, listInnerSequences, innerSequences]

theorem LacksPath.of_mem {clause : Clause} {clauses : List Clause}
    (lacks : LacksPath [clause]) (member : clause ∈ clauses) :
    LacksPath clauses := by
  induction clauses with
  | nil => simp at member
  | cons first rest inductionHypothesis =>
      rw [lacksPath_cons_iff]
      rcases List.mem_cons.mp member with rfl | member
      · exact .inl lacks
      · exact .inr (inductionHypothesis member)

mutual

theorem fault_eq_some_iff : ∀ (clause : Clause) (fault : Fault),
    clause.fault = some fault ↔ fault = .emptyPath ∧ LacksPath [clause]
  | condition restriction, fault => by
      rw [Clause.fault, lacksPath_condition_iff,
        Condition.fault_eq_some_iff]
  | nested inner, fault => by
      rw [Clause.fault, lacksPath_nested_iff, listFault_eq_some_iff]
  | negated inner, fault => by
      rw [Clause.fault, lacksPath_negated_iff, listFault_eq_some_iff]
  | connective word, fault => by
      simp [Clause.fault, LacksPath, Occurs, sequences, listInnerSequences,
        innerSequences]
  | modifier adjustment, fault => by
      simp [Clause.fault, LacksPath, Occurs, sequences, listInnerSequences,
        innerSequences]

/-- The first fault of a query is that of a missing path, if the query lacks
one anywhere. -/
theorem listFault_eq_some_iff : ∀ (clauses : List Clause) (fault : Fault),
    listFault clauses = some fault ↔ fault = .emptyPath ∧ LacksPath clauses
  | [], fault => by simp [listFault, not_lacksPath_nil]
  | clause :: rest, fault => by
      have first := fault_eq_some_iff clause
      have others := listFault_eq_some_iff rest fault
      rw [listFault, lacksPath_cons_iff, Option.or_eq_some_iff, first, others]
      cases found : clause.fault with
      | none => simp only [true_and, and_or_left]
      | some other =>
          obtain ⟨rfl, lacks⟩ := (first other).mp found
          simp [lacks]

end

theorem listFault_eq_none_iff (clauses : List Clause) :
    listFault clauses = none ↔ ¬ LacksPath clauses := by
  simp [Option.eq_none_iff_forall_not_mem, listFault_eq_some_iff]

end Clause

namespace AnyDraft

theorem WrittenBy.fault_eq_some_iff {draft : AnyDraft} {calls : List Call}
    (written : draft.WrittenBy calls) (fault : Fault) :
    draft.fault = some fault ↔
      fault = .emptyPath ∧ Clause.LacksPath draft.clauses := by
  rw [written.fault, written.clauses, Clause.listFault_eq_some_iff]

theorem WrittenBy.fault_eq_none_iff {draft : AnyDraft} {calls : List Call}
    (written : draft.WrittenBy calls) :
    draft.fault = none ↔ ¬ Clause.LacksPath draft.clauses := by
  rw [written.fault, written.clauses, Clause.listFault_eq_none_iff]

/-- The fault of a written draft is that of a missing path, and it is there
exactly if the draft lacks one at some depth; then the condition without a path
stands in the text.  A fault is never lost: not by further calls, and not when
the draft that has it is nested in another one. -/
theorem fault_eq_emptyPath_iff_lacksPath :
    (∀ calls draft, ofCalls? calls = some draft →
      (draft.fault = some .emptyPath ↔ Clause.LacksPath draft.clauses) ∧
      (draft.fault = none ↔ ¬ Clause.LacksPath draft.clauses) ∧
      (draft.draft.check = .error .emptyPath ↔
        Clause.LacksPath draft.clauses) ∧
      (draft.draft.check = .ok () ↔ ¬ Clause.LacksPath draft.clauses) ∧
      (Clause.LacksPath draft.clauses →
        "InFolder:\"\"".toList <:+: (Clause.listText draft.clauses).toList ∨
          "InTree:\"\"".toList <:+:
            (Clause.listText draft.clauses).toList)) ∧
    (∀ calls current later fault,
      Call.performAll calls current = some later →
        current.fault = some fault → later.fault = some fault) ∧
    ∀ calls draft inner nested fault,
      ofCalls? calls = some draft →
        .nest inner ∈ calls ∨ .negate inner ∈ calls →
          ofCalls? inner = some nested → nested.fault = some fault →
            draft.fault = some fault := by
  refine ⟨?_, ?_, ?_⟩
  · intro calls draft accepted
    have written := (ofCalls?_eq_some_iff calls draft).mp accepted
    have isEmptyPath : draft.fault = some .emptyPath ↔
        Clause.LacksPath draft.clauses := by
      simp [written.fault_eq_some_iff]
    refine ⟨isEmptyPath, written.fault_eq_none_iff, ?_, ?_, ?_⟩
    · exact (Draft.check_eq_error_iff _ _).trans isEmptyPath
    · exact (Draft.check_eq_ok_iff _).trans written.fault_eq_none_iff
    · rw [Clause.toList_listText]
      exact Or.imp Clause.Occurs.characters_infix
        Clause.Occurs.characters_infix
  · intro calls current later fault performed had
    rw [(clauses_and_fault_of_performAll performed).2, had, Option.some_or]
  · intro calls draft inner nested fault accepted member acceptedInner had
    have written := (ofCalls?_eq_some_iff calls draft).mp accepted
    have writtenInner := (ofCalls?_eq_some_iff inner nested).mp acceptedInner
    obtain ⟨rfl, lacks⟩ := (writtenInner.fault_eq_some_iff fault).mp had
    refine (written.fault_eq_some_iff _).mpr ⟨rfl, ?_⟩
    rw [written.clauses]
    rcases (Call.nested_mem_clauses_iff calls nested.clauses).mpr
      ⟨inner, member, writtenInner.clauses.symm⟩ with member | member
    · exact ((Clause.lacksPath_nested_iff _).mpr lacks).of_mem member
    · exact ((Clause.lacksPath_negated_iff _).mpr lacks).of_mem member

/-- A missing path in a negated group, then a connective and a condition with a
path. -/
theorem fault_of_condition_in_negated_group :
    ∃ nested draft later,
      ofCalls? [.nest [.condition (.inTree "")]] = some nested ∧
      ofCalls? [.modify (.top 1), .negate [.nest [.condition (.inTree "")]],
        .connect .and] = some draft ∧
      Call.performAll [.condition (.inFolder "/Root"), .modify (.skip 2)]
        draft = some later ∧
      nested.fault = some .emptyPath ∧ Clause.LacksPath draft.clauses ∧
      draft.draft.check = .error .emptyPath ∧
      later.fault = some .emptyPath := by
  obtain ⟨ofDraft, kept, handedOn⟩ := fault_eq_emptyPath_iff_lacksPath
  have accepted : ofCalls? [.modify (.top 1),
      .negate [.nest [.condition (.inTree "")]], .connect .and] = some _ := rfl
  have inNested := (ofDraft [.nest [.condition (.inTree "")]] _ rfl).1.mpr
    ((Clause.lacksPath_nested_iff _).mpr
      ((Clause.lacksPath_condition_iff _).mpr (.inr rfl)))
  have inDraft := handedOn _ _ _ _ _ accepted
    (.inr (.tail _ (.head _))) rfl inNested
  have lacks := (ofDraft _ _ accepted).1.mp inDraft
  exact ⟨_, _, _, rfl, accepted, rfl, inNested, lacks,
    (ofDraft _ _ accepted).2.2.1.mpr lacks,
    kept [.condition (.inFolder "/Root"), .modify (.skip 2)] _ _ _ rfl
      inDraft⟩

end AnyDraft

end ContentSearch
