import ContentSearch.Picker
import Mathlib.Data.List.Basic

/-!
# The clauses of a picker

A picker adds to a draft the condition on the text of an item, then the
alternatives for its place and for its type, and then the page.  This file
lists the clauses, so that the drafts in which a picker collects its
alternatives need not be looked at again.
-/

namespace ContentSearch

namespace Picker

/-- The alternatives of a restriction, with a connective between each two. -/
def alternativeClauses (condition : String → Condition)
    (items : List String) : List Clause :=
  (items.map fun item => .condition (condition item)).intersperse
    (.connective .or)

/-- A restriction with its alternatives in a nested query; none without
alternatives. -/
def restrictionClauses (condition : String → Condition) :
    List String → List Clause
  | [] => []
  | first :: rest =>
      [.connective .and, .nested (alternativeClauses condition (first :: rest))]

theorem clauses_foldl_alternative (condition : String → Condition)
    (items : List String) (draft : Draft .wantsConnective) :
    (items.foldl (alternative condition) draft).clauses =
      draft.clauses ++ items.flatMap fun item =>
        [.connective .or, .condition (condition item)] := by
  induction items generalizing draft with
  | nil => simp
  | cons item rest inductionHypothesis =>
      rw [List.foldl_cons, inductionHypothesis]
      simp [alternative, Draft.condition, Draft.connect]

theorem alternativeClauses_cons (condition : String → Condition)
    (first : String) (rest : List String) :
    alternativeClauses condition (first :: rest) =
      .condition (condition first) :: rest.flatMap fun item =>
        [.connective .or, .condition (condition item)] := by
  induction rest generalizing first with
  | nil => rfl
  | cons second others inductionHypothesis =>
      have tail := inductionHypothesis second
      unfold alternativeClauses at tail ⊢
      rw [List.map_cons, List.map_cons, List.intersperse_cons_cons]
      rw [List.map_cons] at tail
      rw [tail]
      rfl

theorem clauses_restrict_alternatives (condition : String → Condition)
    (items : List String) (draft : Draft .wantsConnective) :
    (restrict draft (alternatives? items condition)).clauses =
      draft.clauses ++ restrictionClauses condition items := by
  cases items with
  | nil => simp [alternatives?, restrict, restrictionClauses]
  | cons first rest =>
      have start : (Draft.empty.condition (condition first)).clauses =
          [.condition (condition first)] := rfl
      have inner := clauses_foldl_alternative condition rest
        (Draft.empty.condition (condition first))
      rw [start, List.singleton_append, ← alternativeClauses_cons] at inner
      simp only [alternatives?, restrict, restrictionClauses, Draft.nest,
        Draft.connect, Draft.clauses_append, inner, List.append_assoc,
        List.singleton_append]

/-- The clauses that a picker adds to a draft. -/
theorem clauses_write (picker : Picker) (draft : Draft .wantsRestriction) :
    (picker.write draft).clauses =
      draft.clauses ++ .condition picker.searched ::
        (restrictionClauses .inTree picker.roots ++
          restrictionClauses .ofType picker.types ++
            [.modifier (.top picker.top), .modifier (.skip picker.skip)]) := by
  simp [write, Draft.modify, Draft.condition, clauses_restrict_alternatives]

end Picker

end ContentSearch
