import ContentSearch.Proofs.Sequences

/-!
# What calls write

A call adds one clause to a draft, and the clause does not depend on the draft.
So a sequence of calls has the clauses of its calls as its text, and the stages
only decide whether it is accepted.  This file proves that reading of the two
stages in one statement, `ofCalls?_eq_some_iff`, from which the stages, the
clauses and the fault of every draft can be read off.

The stage discipline follows: the accepted sequences of calls are those whose
roles alternate, and the sequences of clauses that fit a stage are exactly the
ones that are written.
-/

namespace ContentSearch

namespace Clause

mutual

/-- The first fault in a clause, at any depth. -/
def fault : Clause → Option Fault
  | condition restriction => restriction.fault
  | nested inner => listFault inner
  | negated inner => listFault inner
  | _ => none

def listFault : List Clause → Option Fault
  | [] => none
  | clause :: rest => clause.fault.or (listFault rest)

end

theorem listFault_append (first second : List Clause) :
    listFault (first ++ second) =
      (listFault first).or (listFault second) := by
  induction first with
  | nil => simp [listFault]
  | cons clause rest inductionHypothesis =>
      rw [List.cons_append, listFault, listFault, inductionHypothesis,
        Option.or_assoc]

end Clause

namespace Call

/-- What the call is for; a call that adds a modifier has no role. -/
def role? : Call → Option Role
  | condition _ => some .restriction
  | nest _ => some .restriction
  | negate _ => some .restriction
  | connect _ => some .connective
  | modify _ => none

def roles (calls : List Call) : List Role :=
  calls.filterMap role?

mutual

/-- The clause that a call adds. -/
def clause : Call → Clause
  | condition restriction => .condition restriction
  | nest inner => .nested (clauses inner)
  | negate inner => .negated (clauses inner)
  | connect word => .connective word
  | modify adjustment => .modifier adjustment

def clauses : List Call → List Clause
  | [] => []
  | call :: rest => call.clause :: clauses rest

end

theorem clauses_eq_map (calls : List Call) :
    clauses calls = calls.map clause := by
  induction calls with
  | nil => rfl
  | cons call rest inductionHypothesis =>
      rw [clauses, inductionHypothesis, List.map_cons]

@[simp]
theorem clauses_append (first second : List Call) :
    clauses (first ++ second) = clauses first ++ clauses second := by
  simp [clauses_eq_map]

@[simp]
theorem role?_clause (call : Call) : call.clause.role? = call.role? := by
  cases call <;> simp [clause, Clause.role?, role?]

theorem roles_clauses (calls : List Call) :
    Clause.roles (clauses calls) = roles calls := by
  rw [Clause.roles, clauses_eq_map, List.filterMap_map]
  exact congrArg (List.filterMap · calls) (funext role?_clause)

mutual

theorem exists_clause_eq : ∀ clause : Clause,
    ∃ call : Call, call.clause = clause
  | .condition restriction => ⟨condition restriction, rfl⟩
  | .nested inner =>
      let ⟨calls, equal⟩ := exists_clauses_eq inner
      ⟨nest calls, congrArg Clause.nested equal⟩
  | .negated inner =>
      let ⟨calls, equal⟩ := exists_clauses_eq inner
      ⟨negate calls, congrArg Clause.negated equal⟩
  | .connective word => ⟨connect word, rfl⟩
  | .modifier adjustment => ⟨modify adjustment, rfl⟩

theorem exists_clauses_eq : ∀ sequence : List Clause,
    ∃ calls : List Call, clauses calls = sequence
  | [] => ⟨[], rfl⟩
  | clause :: rest =>
      let ⟨call, equal⟩ := exists_clause_eq clause
      let ⟨calls, others⟩ := exists_clauses_eq rest
      ⟨call :: calls, by rw [clauses, equal, others]⟩

end

/-- The calls that nest an alternative of their own are those whose clauses
hold a sequence. -/
theorem nested_mem_clauses_iff (calls : List Call) (sequence : List Clause) :
    .nested sequence ∈ clauses calls ∨ .negated sequence ∈ clauses calls ↔
      ∃ inner, (nest inner ∈ calls ∨ negate inner ∈ calls) ∧
        clauses inner = sequence := by
  rw [clauses_eq_map calls]
  simp only [List.mem_map]
  constructor
  · rintro (⟨call, member, equal⟩ | ⟨call, member, equal⟩)
    · cases call with
      | nest inner =>
          exact ⟨inner, .inl member, by simpa [clause] using equal⟩
      | _ => simp [clause] at equal
    · cases call with
      | negate inner =>
          exact ⟨inner, .inr member, by simpa [clause] using equal⟩
      | _ => simp [clause] at equal
  · rintro ⟨inner, member | member, rfl⟩
    · exact .inl ⟨_, member, by rw [clause]⟩
    · exact .inr ⟨_, member, by rw [clause]⟩

/-- To prove something of every sequence of calls, prove it of a sequence from
the sequences that its own calls nest. -/
theorem inner_induction {motive : List Call → Prop}
    (step : ∀ calls, (∀ inner, nest inner ∈ calls ∨ negate inner ∈ calls →
      motive inner) → motive calls)
    (calls : List Call) : motive calls := by
  apply step
  intro inner member
  have smaller : sizeOf inner < sizeOf calls := by
    rcases member with member | member
    all_goals
      have bound := List.sizeOf_lt_of_mem member
      simp only [nest.sizeOf_spec, negate.sizeOf_spec] at bound
      omega
  exact inner_induction step inner
termination_by sizeOf calls

end Call

namespace AnyDraft

theorem eq_of_parts {first second : AnyDraft}
    (stage : first.stage = second.stage)
    (clauses : first.clauses = second.clauses)
    (fault : first.fault = second.fault) : first = second := by
  obtain ⟨_, _, _⟩ := first
  obtain ⟨_, _, _⟩ := second
  cases stage
  cases clauses
  cases fault
  rfl

/-- The draft `next` is the draft `current` with a clause added that fits. -/
structure Extends (current : AnyDraft) (clause : Clause)
    (next : AnyDraft) : Prop where
  before : ∀ role ∈ clause.role?, current.stage = role.before
  after : next.stage = (clause.role?.map Role.after).getD current.stage
  inner : ∀ sequence, clause = .nested sequence ∨ clause = .negated sequence →
    Clause.Fits .wantsConnective sequence
  clauses : next.clauses = current.clauses ++ [clause]
  fault : next.fault = current.fault.or clause.fault

/-- The draft has the clauses of the calls, which lead to its stage, and their
first fault. -/
structure WrittenBy (current : AnyDraft) (calls : List Call) : Prop where
  fits : Clause.Fits current.stage (Call.clauses calls)
  clauses : current.clauses = Call.clauses calls
  fault : current.fault = Clause.listFault (Call.clauses calls)

theorem extends_iff (current : AnyDraft) (clause : Clause)
    (next : AnyDraft) :
    current.Extends clause next ↔
      (∀ role ∈ clause.role?, current.stage = role.before) ∧
        (∀ sequence,
          clause = .nested sequence ∨ clause = .negated sequence →
            Clause.Fits .wantsConnective sequence) ∧
          next = ⟨(clause.role?.map Role.after).getD current.stage,
            current.draft.append _ clause clause.fault⟩ := by
  constructor
  · intro addition
    exact ⟨addition.before, addition.inner,
      eq_of_parts addition.after addition.clauses addition.fault⟩
  · rintro ⟨before, inner, rfl⟩
    exact ⟨before, rfl, inner, rfl, rfl⟩

end AnyDraft

namespace Call

private theorem performAll_nested_eq_some_iff {inner : List Call}
    (written : ∀ draft, AnyDraft.ofCalls? inner = some draft ↔
      draft.WrittenBy inner)
    (add : Draft .wantsConnective → AnyDraft) (next : AnyDraft) :
    (match performAll inner .empty with
      | some ⟨.wantsConnective, nested⟩ => some (add nested)
      | _ => none) = some next ↔
      Clause.Fits .wantsConnective (clauses inner) ∧
        next = add ⟨clauses inner, Clause.listFault (clauses inner)⟩ := by
  by_cases fits : Clause.Fits .wantsConnective (clauses inner)
  · have run : performAll inner .empty =
        some ⟨.wantsConnective, clauses inner,
          Clause.listFault (clauses inner)⟩ :=
      (written _).mpr ⟨fits, rfl, rfl⟩
    simp [run, fits, eq_comm]
  · cases run : performAll inner .empty with
    | none => simp [fits]
    | some reached =>
        obtain ⟨stage, draft⟩ := reached
        cases stage with
        | wantsRestriction => simp [fits]
        | wantsConnective => exact absurd ((written _).mp run).fits fits

theorem perform_eq_some_iff (call : Call) (current next : AnyDraft)
    (written : ∀ inner, call = nest inner ∨ call = negate inner →
      ∀ draft, AnyDraft.ofCalls? inner = some draft ↔
        draft.WrittenBy inner) :
    call.perform current = some next ↔
      current.Extends call.clause next := by
  rw [AnyDraft.extends_iff]
  obtain ⟨stage, draft⟩ := current
  cases call with
  | condition restriction =>
      cases stage <;>
        simp [perform, clause, Clause.role?, Role.before, Role.after,
          Clause.fault, Draft.condition, eq_comm]
  | connect word =>
      cases stage <;>
        simp [perform, clause, Clause.role?, Role.before, Role.after,
          Clause.fault, Draft.connect, eq_comm]
  | modify adjustment =>
      cases stage <;>
        simp [perform, clause, Clause.role?, Clause.fault, Draft.modify,
          eq_comm]
  | nest inner =>
      cases stage with
      | wantsConnective =>
          simp [perform, clause, Clause.role?, Role.before]
      | wantsRestriction =>
          have added := performAll_nested_eq_some_iff
            (written inner (.inl rfl)) (fun nested => ⟨_, draft.nest nested⟩)
            next
          rw [perform]
          refine added.trans ?_
          simp [clause, Clause.role?, Role.before, Role.after, Clause.fault,
            Draft.nest]
  | negate inner =>
      cases stage with
      | wantsConnective =>
          simp [perform, clause, Clause.role?, Role.before]
      | wantsRestriction =>
          have added := performAll_nested_eq_some_iff
            (written inner (.inr rfl))
            (fun nested => ⟨_, draft.negate nested⟩) next
          rw [perform]
          refine added.trans ?_
          simp [clause, Clause.role?, Role.before, Role.after, Clause.fault,
            Draft.negate]

end Call

namespace AnyDraft

theorem writtenBy_nil_iff (draft : AnyDraft) :
    draft.WrittenBy [] ↔ draft = .empty := by
  constructor
  · intro written
    have stage := (Stage.nil_mem_language_iff draft.stage).mp
      written.fits.outer
    exact eq_of_parts stage written.clauses written.fault
  · rintro rfl
    exact ⟨⟨(Stage.nil_mem_language_iff _).mpr rfl, by
      simp [Call.clauses, Clause.listInnerSequences]⟩, rfl, rfl⟩

/-- A draft is written by a sequence of calls if it extends one that is
written by all of them but the last. -/
theorem writtenBy_append_singleton_iff (draft : AnyDraft)
    (calls : List Call) (call : Call) :
    draft.WrittenBy (calls ++ [call]) ↔
      ∃ current : AnyDraft, current.WrittenBy calls ∧
        current.Extends call.clause draft := by
  have clausesEq : Call.clauses (calls ++ [call]) =
      Call.clauses calls ++ [call.clause] := by
    simp [Call.clauses]
  have faultEq : Clause.listFault (Call.clauses calls ++ [call.clause]) =
      (Clause.listFault (Call.clauses calls)).or call.clause.fault := by
    simp [Clause.listFault_append, Clause.listFault]
  constructor
  · rintro ⟨fits, clauses, fault⟩
    rw [clausesEq] at fits clauses fault
    obtain ⟨earlier, fitsEarlier, before, after, inner⟩ :=
      (Clause.fits_append_singleton_iff _ _ _).mp fits
    exact ⟨⟨earlier, Call.clauses calls,
        Clause.listFault (Call.clauses calls)⟩,
      ⟨fitsEarlier, rfl, rfl⟩,
      ⟨before, after, inner, clauses, fault.trans faultEq⟩⟩
  · rintro ⟨current, written, addition⟩
    refine ⟨?_, ?_, ?_⟩
    · rw [clausesEq]
      exact (Clause.fits_append_singleton_iff _ _ _).mpr
        ⟨current.stage, written.fits, addition.before, addition.after,
          addition.inner⟩
    · rw [clausesEq, addition.clauses, written.clauses]
    · rw [clausesEq, addition.fault, written.fault, faultEq]

/-- A sequence of calls is accepted if its clauses lead to some stage at every
depth.  The draft then has that stage, these clauses and their first fault.  The
induction is over the depth and, at each depth, over the last call. -/
theorem ofCalls?_eq_some_iff (calls : List Call) :
    ∀ draft, ofCalls? calls = some draft ↔ draft.WrittenBy calls := by
  induction calls using Call.inner_induction with
  | step calls written =>
      induction calls using List.reverseRecOn with
      | nil =>
          intro draft
          rw [writtenBy_nil_iff]
          simp [ofCalls?, Call.performAll, eq_comm]
      | append_singleton calls call inductionHypothesis =>
          intro draft
          have earlier := inductionHypothesis fun inner member =>
            written inner (member.imp (List.mem_append_left _)
              (List.mem_append_left _))
          have last (current : AnyDraft) :=
            Call.perform_eq_some_iff call current draft (by
              rintro inner (rfl | rfl)
              · exact written inner (.inl (by simp))
              · exact written inner (.inr (by simp)))
          have single (current : AnyDraft) :
              Call.performAll [call] current = call.perform current := by
            rw [Call.performAll]
            cases call.perform current <;> rfl
          rw [writtenBy_append_singleton_iff, ofCalls?,
            Call.performAll_append, Option.bind_eq_some_iff]
          simp only [single, last]
          exact exists_congr fun current =>
            and_congr_left fun _ => earlier current

/-- What one call does to a draft: it adds the clause of the call, if that
fits. -/
theorem perform_eq_some_iff_extends (call : Call) (current next : AnyDraft) :
    call.perform current = some next ↔ current.Extends call.clause next :=
  Call.perform_eq_some_iff call current next fun inner _ =>
    ofCalls?_eq_some_iff inner

/-- Calls leave the clauses of a draft and its fault as they are; theirs come
after them. -/
theorem clauses_and_fault_of_performAll {calls : List Call}
    {current later : AnyDraft}
    (performed : Call.performAll calls current = some later) :
    later.clauses = current.clauses ++ Call.clauses calls ∧
      later.fault =
        current.fault.or (Clause.listFault (Call.clauses calls)) := by
  induction calls generalizing current with
  | nil =>
      obtain rfl := Option.some.inj performed
      simp [Call.clauses, Clause.listFault]
  | cons call rest inductionHypothesis =>
      rw [Call.performAll] at performed
      cases step : call.perform current with
      | none => simp [step] at performed
      | some next =>
          have addition :=
            (perform_eq_some_iff_extends call current next).mp step
          obtain ⟨clauses, fault⟩ :=
            inductionHypothesis (by simpa [step] using performed)
          constructor
          · rw [clauses, addition.clauses, Call.clauses, List.append_assoc]
            rfl
          · rw [fault, addition.fault, Call.clauses, Clause.listFault,
              Option.or_assoc]

/-- The calls that lead to a stage are those whose clauses fit it. -/
theorem exists_ofCalls?_eq_some_iff (calls : List Call) (stage : Stage) :
    (∃ draft, ofCalls? calls = some ⟨stage, draft⟩) ↔
      Clause.Fits stage (Call.clauses calls) := by
  constructor
  · rintro ⟨draft, accepted⟩
    exact ((ofCalls?_eq_some_iff calls _).mp accepted).fits
  · intro fits
    exact ⟨_, (ofCalls?_eq_some_iff calls
      ⟨stage, Call.clauses calls, Clause.listFault (Call.clauses calls)⟩).mpr
        ⟨fits, rfl, rfl⟩⟩

/-- The stages accept the sequences of calls that alternate and whose nested
sequences are themselves accepted and ready to be nested.  They write exactly
the sequences of clauses that fit a stage, at every depth; so no nested
sequence is empty or ends in a connective. -/
theorem stages_accept_alternating_calls :
    (∀ calls : List Call, (ofCalls? calls).isSome ↔
      Alternating (Call.roles calls) ∧
        ∀ inner, .nest inner ∈ calls ∨ .negate inner ∈ calls →
          ∃ draft, ofCalls? inner = some ⟨.wantsConnective, draft⟩) ∧
      (∀ stage clauses,
        (∃ calls, ∃ draft : Draft stage,
          ofCalls? calls = some ⟨stage, draft⟩ ∧ draft.clauses = clauses) ↔
            Clause.Fits stage clauses) ∧
      ∀ stage clauses, Clause.Fits stage clauses →
        ∀ inner ∈ Clause.listInnerSequences clauses,
          inner ≠ [] ∧ ∀ word, inner.getLast? ≠ some (.connective word) := by
  refine ⟨?_, ?_, ?_⟩
  · intro calls
    have nested :
        (∀ sequence, .nested sequence ∈ Call.clauses calls ∨
            .negated sequence ∈ Call.clauses calls →
              Clause.Fits .wantsConnective sequence) ↔
          ∀ inner, .nest inner ∈ calls ∨ .negate inner ∈ calls →
            Clause.Fits .wantsConnective (Call.clauses inner) := by
      simp only [Call.nested_mem_clauses_iff]
      constructor
      · intro fits inner member
        exact fits _ ⟨inner, member, rfl⟩
      · rintro fits _ ⟨inner, member, rfl⟩
        exact fits inner member
    calc
      (ofCalls? calls).isSome ↔
          ∃ stage, Clause.Fits stage (Call.clauses calls) := by
        simp only [← exists_ofCalls?_eq_some_iff, Option.isSome_iff_exists]
        exact ⟨fun ⟨⟨stage, draft⟩, accepted⟩ => ⟨stage, draft, accepted⟩,
          fun ⟨stage, draft, accepted⟩ => ⟨⟨stage, draft⟩, accepted⟩⟩
      _ ↔ (∃ stage : Stage,
            Clause.roles (Call.clauses calls) ∈ stage.language) ∧
          ∀ inner, .nest inner ∈ calls ∨ .negate inner ∈ calls →
            Clause.Fits .wantsConnective (Call.clauses inner) := by
        rw [← nested, ← exists_and_right]
        exact exists_congr fun stage => Clause.fits_iff _ _
      _ ↔ _ := by
        rw [Call.roles_clauses, ← alternating_iff_exists_mem_language]
        simp only [exists_ofCalls?_eq_some_iff]
  · intro stage clauses
    constructor
    · rintro ⟨calls, draft, accepted, rfl⟩
      have written := (ofCalls?_eq_some_iff calls _).mp accepted
      have clausesEq : draft.clauses = Call.clauses calls := written.clauses
      rw [clausesEq]
      exact written.fits
    · intro fits
      obtain ⟨calls, rfl⟩ := Call.exists_clauses_eq clauses
      obtain ⟨draft, accepted⟩ :=
        (exists_ofCalls?_eq_some_iff calls stage).mpr fits
      exact ⟨calls, draft, accepted,
        ((ofCalls?_eq_some_iff calls _).mp accepted).clauses⟩
  · intro stage clauses fits inner member
    exact Clause.getLast?_of_mem_language (fits.inner inner member)

/-- A negated group with a modifier inside, after a modifier and before a
connective. -/
theorem stages_accept_negated_group :
    (ofCalls? [.modify (.skip 2),
      .negate [.nest [.condition (.term "a"), .modify (.top 1)]],
      .connect .or]).isSome := by
  refine (stages_accept_alternating_calls.1 _).mpr ⟨?_, ?_⟩
  · exact ⟨by decide, by decide⟩
  · intro inner member
    obtain rfl : inner = [.nest [.condition (.term "a"), .modify (.top 1)]] := by
      simpa using member
    exact ⟨_, rfl⟩

end AnyDraft

end ContentSearch
