import ContentSearch.Proofs.Pickers
import ContentSearch.Proofs.Separation

/-!
# Empty groups

A nested query has a condition or a nested query in it, because it ends where a
connective is wanted.  That does not make its text nonempty: a term stands in a
query as it is, and the empty term has no text.  This file shows that the empty
term is the only exception.  A nested query is written as a pair of parentheses
with nothing between them exactly if it consists of one empty term.

The alternatives of a picker are never such a query.
-/

namespace ContentSearch

/-- Every condition but the empty term has a text. -/
theorem Condition.characters_eq_nil_iff (restriction : Condition) :
    restriction.characters = [] ↔ restriction = .term "" := by
  have keyword {word rest : List Char} (shown : word ≠ []) :
      ¬ word ++ rest = [] :=
    List.append_ne_nil_of_left_ne_nil shown rest
  have closed {text rest : List Char} {last : Char} :
      ¬ text ++ last :: rest = [] :=
    List.append_ne_nil_of_right_ne_nil text (List.cons_ne_nil last rest)
  cases restriction with
  | term text =>
      change text.toList = [] ↔ _
      simp
  | ofType name => exact iff_of_false (keyword (by decide)) nofun
  | ofExactType name => exact iff_of_false (keyword (by decide)) nofun
  | inFolder path => exact iff_of_false (keyword (by decide)) nofun
  | inTree path => exact iff_of_false (keyword (by decide)) nofun
  | equal field value => exact iff_of_false closed nofun
  | different field value => exact iff_of_false closed nofun
  | range field lower upper => exact iff_of_false closed nofun
  | above field bound => exact iff_of_false closed nofun
  | below field bound => exact iff_of_false closed nofun

namespace Clause

theorem characters_eq_nil_iff (clause : Clause) :
    clause.characters = [] ↔ clause = condition (.term "") := by
  cases clause with
  | condition restriction =>
      rw [characters, condition.injEq]
      exact restriction.characters_eq_nil_iff
  | nested inner => simp [characters]
  | negated inner =>
      have opened : (negated inner).characters ≠ [] := by
        rw [characters]
        exact List.append_ne_nil_of_right_ne_nil _ (by simp)
      exact iff_of_false opened Clause.noConfusion
  | connective word =>
      exact iff_of_false (characters_ne_nil_of_role?_ne nofun)
        Clause.noConfusion
  | modifier adjustment =>
      exact iff_of_false (characters_ne_nil_of_role?_ne nofun)
        Clause.noConfusion

/-- A sequence without text that ends where a connective is wanted is a single
empty term, since two terms cannot stand side by side. -/
theorem listCharacters_eq_nil_iff {clauses : List Clause}
    (wanted : roles clauses ∈ Stage.language .wantsConnective) :
    listCharacters clauses = [] ↔ clauses = [condition (.term "")] := by
  constructor
  · intro noText
    have empty : ∀ clause ∈ clauses, clause = condition (.term "") := by
      intro clause member
      rw [listCharacters_eq_flatMap, List.flatMap_eq_nil_iff] at noText
      exact (characters_eq_nil_iff clause).mp (noText clause member)
    have alternating : Alternating (roles clauses) :=
      (alternating_iff_exists_mem_language _).mpr ⟨_, wanted⟩
    match clauses with
    | [] => simp [roles] at wanted
    | [only] => rw [empty only (by simp)]
    | first :: second :: rest =>
        have different := alternating.1
        rw [empty first (by simp), empty second (by simp)] at different
        simp [roles, role?] at different
  · rintro rfl
    rfl

end Clause

namespace Picker

theorem listInnerSequences_alternativeClauses
    (condition : String → Condition) (first : String) (rest : List String) :
    Clause.listInnerSequences
      (alternativeClauses condition (first :: rest)) = [] := by
  apply List.eq_nil_iff_forall_not_mem.mpr
  intro inner member
  obtain ⟨clause, member, inside⟩ :=
    (Clause.mem_listInnerSequences_iff _ _).mp member
  simp only [alternativeClauses_cons, List.mem_cons, List.mem_flatMap,
    List.not_mem_nil, or_false] at member
  rcases member with rfl | ⟨item, -, rfl | rfl⟩
  all_goals simp [Clause.innerSequences] at inside

/-- The alternatives of a picker have a text, because conditions on places and
types have one. -/
theorem listCharacters_ne_nil_of_mem {condition : String → Condition}
    (shown : ∀ item, (condition item).characters ≠ [])
    {items : List String} {inner : List Clause}
    (member : inner ∈ Clause.listInnerSequences
      (restrictionClauses condition items)) :
    Clause.listCharacters inner ≠ [] := by
  cases items with
  | nil => simp [restrictionClauses, Clause.listInnerSequences] at member
  | cons first rest =>
      obtain rfl : inner = alternativeClauses condition (first :: rest) := by
        simpa [restrictionClauses, Clause.listInnerSequences,
          Clause.innerSequences, listInnerSequences_alternativeClauses]
          using member
      rw [alternativeClauses_cons, Clause.listCharacters]
      exact List.append_ne_nil_of_left_ne_nil (shown first) _

theorem mem_listInnerSequences_write {picker : Picker}
    {draft : Draft .wantsRestriction} {inner : List Clause}
    (member : inner ∈ Clause.listInnerSequences (picker.write draft).clauses) :
    inner ∈ Clause.listInnerSequences draft.clauses ∨
      inner ∈ Clause.listInnerSequences
        (restrictionClauses .inTree picker.roots) ∨
      inner ∈ Clause.listInnerSequences
        (restrictionClauses .ofType picker.types) := by
  rw [clauses_write] at member
  obtain ⟨clause, member, inside⟩ :=
    (Clause.mem_listInnerSequences_iff _ _).mp member
  simp only [List.mem_append, List.mem_cons, List.not_mem_nil, or_false]
    at member
  have inSequence {clauses : List Clause} (member : clause ∈ clauses) :
      inner ∈ Clause.listInnerSequences clauses :=
    (Clause.mem_listInnerSequences_iff _ _).mpr ⟨clause, member, inside⟩
  rcases member with member | rfl | (member | member) | rfl | rfl
  · exact .inl (inSequence member)
  · simp [Clause.innerSequences] at inside
  · exact .inr (.inl (inSequence member))
  · exact .inr (.inr (inSequence member))
  · simp [Clause.innerSequences] at inside
  · simp [Clause.innerSequences] at inside

end Picker

namespace AnyDraft

/-- A nested query of a written draft, at any depth, has nothing between its
parentheses exactly if it is one empty term.  A picker adds no such query. -/
theorem text_of_nested_eq_empty_iff_empty_term {calls : List Call}
    {draft : AnyDraft} (accepted : ofCalls? calls = some draft)
    (picker : Picker) (start : Draft .wantsRestriction) :
    (∀ inner ∈ Clause.listInnerSequences draft.clauses,
      (Clause.listText inner = "" ↔ inner = [.condition (.term "")]) ∧
      ((Clause.nested inner).text = "()" ↔
        inner = [.condition (.term "")]) ∧
      ((Clause.negated inner).text = "NOT()" ↔
        inner = [.condition (.term "")])) ∧
    ∀ inner ∈ Clause.listInnerSequences (picker.write start).clauses,
      inner ∈ Clause.listInnerSequences start.clauses ∨
        Clause.listText inner ≠ "" := by
  have noText (inner : List Clause) :
      Clause.listText inner = "" ↔ Clause.listCharacters inner = [] := by
    rw [← String.toList_inj, Clause.toList_listText]
    rfl
  constructor
  · intro inner member
    have written := (ofCalls?_eq_some_iff calls draft).mp accepted
    have fits := written.fits
    rw [← written.clauses] at fits
    have isTerm := Clause.listCharacters_eq_nil_iff (fits.inner inner member)
    refine ⟨(noText inner).trans isTerm, ?_, ?_⟩
    · rw [← isTerm, ← String.toList_inj, Clause.toList_text, Clause.characters]
      change '(' :: Clause.listCharacters inner ++ [')'] = ['(', ')'] ↔ _
      simp
    · rw [← isTerm, ← String.toList_inj, Clause.toList_text, Clause.characters]
      change "NOT(".toList ++ Clause.listCharacters inner ++ [')'] =
        "NOT(".toList ++ [] ++ [')'] ↔ _
      rw [List.append_cancel_right_eq, List.append_cancel_left_eq]
  · intro inner member
    rw [Ne, noText]
    rcases Picker.mem_listInnerSequences_write member with
      earlier | place | kind
    · exact .inl earlier
    · apply Or.inr
      apply Picker.listCharacters_ne_nil_of_mem _ place
      intro path
      exact mt (Condition.characters_eq_nil_iff _).mp nofun
    · apply Or.inr
      apply Picker.listCharacters_ne_nil_of_mem _ kind
      intro name
      exact mt (Condition.characters_eq_nil_iff _).mp nofun

/-- A group of an empty term, inside a negated one, and a picker whose texts
are all empty. -/
theorem text_of_empty_term_in_negated_group :
    ∃ draft, ofCalls? [.negate [.nest [.condition (.term "")]]] =
        some draft ∧
      Clause.listText draft.clauses = "NOT(())" ∧
      (Clause.nested [.condition (.term "")]).text = "()" ∧
      (Clause.negated [.nested [.condition (.term "")]]).text ≠ "NOT()" ∧
      ∀ inner ∈ Clause.listInnerSequences
          ((⟨"", [""], [""], 10, 0⟩ : Picker).write .empty).clauses,
        Clause.listText inner ≠ "" := by
  obtain ⟨draft, accepted⟩ : ∃ draft, ofCalls?
      [.negate [.nest [.condition (.term "")]]] = some draft := ⟨_, rfl⟩
  have clauses : draft.clauses =
      [.negated [.nested [.condition (.term "")]]] :=
    ((ofCalls?_eq_some_iff _ _).mp accepted).clauses
  obtain ⟨ofAccepted, ofPicker⟩ := text_of_nested_eq_empty_iff_empty_term
    accepted ⟨"", [""], [""], 10, 0⟩ .empty
  obtain ⟨-, group, -⟩ := ofAccepted [.condition (.term "")]
    (by simp [clauses, Clause.listInnerSequences, Clause.innerSequences])
  obtain ⟨-, -, negation⟩ := ofAccepted [.nested [.condition (.term "")]]
    (by simp [clauses, Clause.listInnerSequences, Clause.innerSequences])
  refine ⟨draft, accepted, by rw [clauses]; rfl, group.mpr rfl,
    mt negation.mp (by simp), ?_⟩
  intro inner member
  exact (ofPicker inner member).resolve_left List.not_mem_nil

/-- A group that ends where a connective is wanted, and has no text. -/
theorem accepted_group_without_text :
    ¬ ∀ calls draft, ofCalls? calls = some draft →
      ∀ inner ∈ Clause.listInnerSequences draft.clauses,
        Clause.listText inner ≠ "" := by
  intro allShown
  have accepted : ofCalls? [.nest [.condition (.term "")]] = some _ := rfl
  exact allShown _ _ accepted [.condition (.term "")] (.head _) rfl

end AnyDraft

end ContentSearch
