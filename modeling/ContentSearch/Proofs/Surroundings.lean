import ContentSearch.Clause.Text
import ContentSearch.Proofs.Sequences

/-!
# Places in a query

A place is where some successive clauses of a query stand, at any depth.  All
the clauses around it stay the same when others are put there, and so does the
text around it.  So what is said about the clauses at a place and about their
text holds wherever they stand.
-/

namespace ContentSearch

/-- The clauses around a place in a query. -/
inductive Surrounding where
  | here (before after : List Clause)
  | nested (before : List Clause) (inner : Surrounding) (after : List Clause)
  | negated (before : List Clause) (inner : Surrounding) (after : List Clause)

namespace Surrounding

/-- The query with these clauses at the place. -/
def fill : Surrounding → List Clause → List Clause
  | here before after, clauses => before ++ clauses ++ after
  | nested before inner after, clauses =>
      before ++ .nested (inner.fill clauses) :: after
  | negated before inner after, clauses =>
      before ++ .negated (inner.fill clauses) :: after

/-- The text around a place does not depend on the clauses there. -/
theorem exists_listCharacters_fill_eq (surrounding : Surrounding) :
    ∃ before after, ∀ clauses,
      Clause.listCharacters (surrounding.fill clauses) =
        before ++ Clause.listCharacters clauses ++ after := by
  induction surrounding with
  | here before after =>
      refine ⟨Clause.listCharacters before, Clause.listCharacters after, ?_⟩
      intro clauses
      rw [fill, Clause.listCharacters_append, Clause.listCharacters_append]
  | nested before inner after inductionHypothesis =>
      obtain ⟨left, right, inside⟩ := inductionHypothesis
      refine ⟨Clause.listCharacters before ++ '(' :: left,
        right ++ ')' :: Clause.listCharacters after, ?_⟩
      intro clauses
      rw [fill, Clause.listCharacters_append, Clause.listCharacters,
        Clause.characters, inside]
      simp only [List.append_assoc, List.cons_append, List.nil_append]
  | negated before inner after inductionHypothesis =>
      obtain ⟨left, right, inside⟩ := inductionHypothesis
      refine ⟨Clause.listCharacters before ++ "NOT(".toList ++ left,
        right ++ ')' :: Clause.listCharacters after, ?_⟩
      intro clauses
      rw [fill, Clause.listCharacters_append, Clause.listCharacters,
        Clause.characters, inside]
      simp only [List.append_assoc, List.cons_append, List.nil_append]

/-- Queries that differ at one place have the same text exactly if the clauses
there have. -/
theorem listCharacters_fill_eq_iff (surrounding : Surrounding)
    (first second : List Clause) :
    Clause.listCharacters (surrounding.fill first) =
        Clause.listCharacters (surrounding.fill second) ↔
      Clause.listCharacters first = Clause.listCharacters second := by
  obtain ⟨before, after, around⟩ := surrounding.exists_listCharacters_fill_eq
  rw [around, around, List.append_left_inj, List.append_right_inj]

/-- Successive clauses of a query, at any depth, have a place in it. -/
theorem exists_fill_eq (clauses : List Clause) :
    ∀ sequence ∈ Clause.sequences clauses, ∀ before middle after,
      sequence = before ++ middle ++ after →
        ∃ surrounding : Surrounding, surrounding.fill middle = clauses := by
  intro sequence member before middle after parts
  rcases List.mem_cons.mp member with rfl | inside
  · exact ⟨here before after, parts.symm⟩
  · obtain ⟨clause, clauseMember, inClause⟩ :=
      (Clause.mem_listInnerSequences_iff _ _).mp inside
    obtain ⟨earlier, later, split⟩ := List.append_of_mem clauseMember
    have smaller := List.sizeOf_lt_of_mem clauseMember
    cases clause with
    | nested inner =>
        obtain ⟨surrounding, equal⟩ :=
          exists_fill_eq inner sequence inClause before middle after parts
        exact ⟨nested earlier surrounding later, by rw [fill, equal, split]⟩
    | negated inner =>
        obtain ⟨surrounding, equal⟩ :=
          exists_fill_eq inner sequence inClause before middle after parts
        exact ⟨negated earlier surrounding later, by rw [fill, equal, split]⟩
    | _ => simp [Clause.innerSequences] at inClause
  termination_by sizeOf clauses
  decreasing_by
    · rw [Clause.nested.sizeOf_spec] at smaller
      omega
    · rw [Clause.negated.sizeOf_spec] at smaller
      omega

end Surrounding

/-- What stands in a query, at any depth, is written in its text. -/
theorem Clause.Occurs.characters_infix {clause : Clause}
    {clauses : List Clause} (occurs : Occurs clause clauses) :
    clause.characters <:+: listCharacters clauses := by
  obtain ⟨sequence, member, inside⟩ := occurs
  obtain ⟨before, after, rfl⟩ := List.append_of_mem inside
  obtain ⟨surrounding, filled⟩ := Surrounding.exists_fill_eq clauses _ member
    before [clause] after (by simp)
  obtain ⟨left, right, around⟩ := surrounding.exists_listCharacters_fill_eq
  refine ⟨left, right, ?_⟩
  rw [← filled, around, listCharacters, listCharacters, List.append_nil]

end ContentSearch
