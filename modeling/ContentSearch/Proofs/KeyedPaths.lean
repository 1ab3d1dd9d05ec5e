import ContentSearch.Proofs.Cutting
import ContentSearch.Proofs.Neighbours
import ContentSearch.Url.Path

/-!
# Paths that end with a key

A path addresses an item by its key if a name stands at its end between the
opening and the closing of a key.  The test for such paths looks for the closing
at the end and for an opening anywhere.  So it also passes the paths whose last
name closes a key without having opened it: an earlier name has the opening, or
the opening and the closing share their quote.
-/

namespace ContentSearch

namespace Url

/-- The path ends with the key of an item. -/
def EndsWithKey (path : String) : Prop :=
  ∃ front name : String, '/' ∉ name.toList ∧
    path = front ++ "('" ++ name ++ "')"

/-- The path ends with the closing of a key.  The name that it closes follows
the last slash. -/
structure ClosedAfter (path : String) (front last : List Char) : Prop where
  characters : path.toList = front ++ last ++ keyClosing
  noSlash : '/' ∉ last
  slash : ∀ character ∈ front.getLast?, character = '/'

/-- The last name of the path closes a key that it has not opened.  An earlier
name has an opening, or the quote of the closing follows a parenthesis and so
belongs to an opening too. -/
def ClosesUnopenedKey (path : String) : Prop :=
  ∃ front last, ClosedAfter path front last ∧ ¬ keyOpening <:+: last ∧
    (keyOpening <:+: front ∨ last.getLast? = some '(')

theorem occursIn_eq_true_iff (part text : List Char) :
    occursIn part text = true ↔ part <:+: text := by
  induction text with
  | nil => simp [occursIn]
  | cons character rest inductionHypothesis =>
      rw [occursIn, Bool.or_eq_true, List.isPrefixOf_iff_prefix,
        inductionHypothesis, List.infix_cons_iff]

theorem hasKey_eq_true_iff (path : String) :
    hasKey path = true ↔
      keyOpening <:+: path.toList ∧ keyClosing <:+ path.toList := by
  rw [hasKey, Bool.and_eq_true, occursIn_eq_true_iff,
    List.isSuffixOf_iff_suffix]

theorem exists_closedAfter {path : String}
    (closed : keyClosing <:+ path.toList) :
    ∃ front last, ClosedAfter path front last := by
  obtain ⟨body, characters⟩ := closed
  obtain ⟨front, last, rfl, noSlash, slash⟩ :=
    Text.exists_last_stretch '/' body
  exact ⟨front, last, characters.symm, noSlash, slash⟩

namespace ClosedAfter

variable {path : String} {front last : List Char}

theorem hasKey_eq_true_iff (closed : ClosedAfter path front last) :
    hasKey path = true ↔
      keyOpening <:+: front ∨ keyOpening <:+: last ∨
        last.getLast? = some '(' := by
  have noParenthesis : front.getLast? ≠ some '(' := by
    intro ends
    exact absurd (closed.slash '(' ends) (by decide)
  have beforeClosing : (front ++ last).getLast? = some '(' ↔
      last.getLast? = some '(' := by
    cases last using List.reverseRecOn <;> simp [noParenthesis]
  have inClosing : ¬ keyOpening <:+: keyClosing := by
    rw [← occursIn_eq_true_iff]
    decide
  have ends : keyClosing <:+ path.toList := by
    rw [closed.characters]
    exact List.suffix_append _ _
  have opened : keyOpening <:+: path.toList ↔
      keyOpening <:+: front ++ last ∨ last.getLast? = some '(' := by
    have starts : keyClosing.head? = some '\'' := rfl
    rw [closed.characters, keyOpening, Text.pair_infix_append_iff,
      ← keyOpening, beforeClosing]
    simp [inClosing, starts]
  have split : keyOpening <:+: front ++ last ↔
      keyOpening <:+: front ∨ keyOpening <:+: last := by
    rw [keyOpening, Text.pair_infix_append_iff]
    simp [noParenthesis]
  rw [Url.hasKey_eq_true_iff, opened, split, or_assoc]
  exact and_iff_left ends

theorem endsWithKey_iff (closed : ClosedAfter path front last) :
    EndsWithKey path ↔ keyOpening <:+: last := by
  constructor
  · rintro ⟨before, name, noSlash, isPath⟩
    have cut : front ++ last = before.toList ++ (keyOpening ++ name.toList) := by
      rw [← List.append_left_inj keyClosing, ← closed.characters, isPath]
      simp [keyOpening, keyClosing]
    rcases List.append_eq_append_iff.mp cut with
      ⟨between, -, split⟩ | ⟨between, split, keyed⟩
    · rw [split]
      exact ⟨between, name.toList, by simp⟩
    · cases between using List.reverseRecOn with
      | nil => exact ⟨[], name.toList, by simpa using keyed⟩
      | append_singleton earlier character =>
          obtain rfl : character = '/' := by
            apply closed.slash
            rw [split, ← List.append_assoc]
            exact List.getLast?_concat
          have member : '/' ∈ keyOpening ++ name.toList := by simp [keyed]
          simp [noSlash, keyOpening] at member
  · rintro ⟨before, name, split⟩
    refine ⟨String.ofList (front ++ before), String.ofList name, ?_, ?_⟩
    · intro member
      apply closed.noSlash
      rw [← split]
      exact List.mem_append_right _ (by simpa using member)
    · rw [← String.toList_inj, closed.characters, ← split]
      simp [keyOpening, keyClosing]

end ClosedAfter

theorem hasKey_of_endsWithKey {path : String} (keyed : EndsWithKey path) :
    hasKey path = true := by
  obtain ⟨front, name, -, rfl⟩ := keyed
  rw [hasKey_eq_true_iff]
  constructor
  · exact ⟨front.toList, name.toList ++ keyClosing,
      by simp [keyOpening, keyClosing]⟩
  · exact ⟨front.toList ++ keyOpening ++ name.toList,
      by simp [keyOpening, keyClosing]⟩

/-- The test passes a path without a key exactly if the last name closes a key
that it has not opened. -/
theorem closesUnopenedKey_iff (path : String) :
    ClosesUnopenedKey path ↔ hasKey path = true ∧ ¬ EndsWithKey path := by
  constructor
  · rintro ⟨front, last, closed, notOpened, elsewhere⟩
    rw [closed.hasKey_eq_true_iff, closed.endsWithKey_iff]
    exact ⟨elsewhere.imp_right .inr, notOpened⟩
  · rintro ⟨passes, notKeyed⟩
    obtain ⟨front, last, closed⟩ :=
      exists_closedAfter ((hasKey_eq_true_iff path).mp passes).2
    rw [closed.hasKey_eq_true_iff] at passes
    rw [closed.endsWithKey_iff] at notKeyed
    exact ⟨front, last, closed, notKeyed,
      passes.imp_right fun others => others.resolve_left notKeyed⟩

/-- The opening and the closing share their quote. -/
example : hasKey "/(')" = true := by decide

end Url

end ContentSearch
