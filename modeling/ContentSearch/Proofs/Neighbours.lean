import ContentSearch.Proofs.Trimming
import Mathlib.Data.List.Infix

/-!
# Neighbours in a text

Two characters are neighbours in a text if they are a stretch of it.  In a text
put together from two, neighbours stand in one of the two or at the joint.

A mark is doubled if it is its own neighbour.  Trimming drops marks at the ends
only, and trimmed parts do not touch the mark between them with a mark of their
own, so a joined text has a doubled mark only where a part has one between
other characters.
-/

namespace ContentSearch

namespace Text

variable {first second mark : Char}

theorem pair_infix_append_iff (before after : List Char) :
    [first, second] <:+: before ++ after ↔
      [first, second] <:+: before ∨ [first, second] <:+: after ∨
        before.getLast? = some first ∧ after.head? = some second := by
  rw [List.infix_append_iff]
  constructor
  · rintro (inBefore | inAfter | ⟨left, right, split, ends, starts⟩)
    · exact .inl inBefore
    · exact .inr (.inl inAfter)
    · match left, right, split with
      | [], _, rfl => exact .inr (.inl starts.isInfix)
      | [_], [_], rfl =>
          exact .inr (.inr ⟨List.singleton_suffix_iff_getLast?_eq_some.mp ends,
            List.singleton_prefix_iff_head?_eq_some.mp starts⟩)
      | [_, _], [], rfl => exact .inl ends.isInfix
  · rintro (inBefore | inAfter | ⟨ends, starts⟩)
    · exact .inl inBefore
    · exact .inr (.inl inAfter)
    · exact .inr (.inr ⟨[first], [second], rfl,
        List.singleton_suffix_iff_getLast?_eq_some.mpr ends,
        List.singleton_prefix_iff_head?_eq_some.mpr starts⟩)

theorem not_pair_infix_singleton (only : Char) :
    ¬ [first, second] <:+: [only] := by
  intro stretch
  simpa using stretch.length_le

/-- The mark is doubled somewhere between two other characters. -/
def DoubledInside (mark : Char) (text : List Char) : Prop :=
  ∃ before after, text = before ++ [mark, mark] ++ after ∧
    (∃ character ∈ before, character ≠ mark) ∧
      ∃ character ∈ after, character ≠ mark

theorem trimWhere_append_append {unwanted : Char → Bool}
    {before after : List Char}
    (front : ∃ character ∈ before, unwanted character = false)
    (back : ∃ character ∈ after, unwanted character = false)
    (middle : List Char) :
    trimWhere unwanted (before ++ middle ++ after) =
      before.dropWhile unwanted ++ middle ++ after.rdropWhile unwanted := by
  have frontLeft : before.dropWhile unwanted ≠ [] := by
    simpa [List.dropWhile_eq_nil_iff] using front
  have backLeft : after.reverse.dropWhile unwanted ≠ [] := by
    simpa [List.dropWhile_eq_nil_iff] using back
  unfold trimWhere List.rdropWhile
  simp [List.dropWhile_append, frontLeft, backLeft]

theorem doubled_infix_trimWhere_iff (mark : Char) (text : List Char) :
    [mark, mark] <:+: trimWhere (· == mark) text ↔ DoubledInside mark text := by
  constructor
  · rintro ⟨before, after, inTrimmed⟩
    have trimmed := trimmed_trimWhere (· == mark) text
    obtain ⟨dropped, droppedBack, split, -, -⟩ :=
      exists_trimWhere_eq (· == mark) text
    rw [← inTrimmed] at trimmed split
    refine ⟨dropped ++ before, after ++ droppedBack, ?_, ?_, ?_⟩
    · simp [split]
    · cases before with
      | nil => simpa using trimmed.first mark rfl
      | cons character rest =>
          have other : (character == mark) = false :=
            trimmed.first character rfl
          exact ⟨character, by simp, by simpa using other⟩
    · cases after using List.reverseRecOn with
      | nil => simpa using trimmed.last mark (by simp)
      | append_singleton earlier character =>
          have other : (character == mark) = false := by
            apply trimmed.last
            rw [← List.append_assoc]
            exact List.getLast?_concat
          exact ⟨character, by simp, by simpa using other⟩
  · rintro ⟨before, after, rfl, front, back⟩
    rw [trimWhere_append_append (by simpa using front) (by simpa using back)]
    exact List.infix_append _ _ _

/-- A mark between two trimmed parts has no mark beside it. -/
theorem doubled_infix_intercalate_iff {parts : List (List Char)}
    (trimmed : ∀ part ∈ parts, part ≠ [] ∧ Trimmed (· == mark) part) :
    [mark, mark] <:+: [mark].intercalate parts ↔
      ∃ part ∈ parts, [mark, mark] <:+: part := by
  induction parts with
  | nil => simp
  | cons part rest inductionHypothesis =>
      have restTrimmed : ∀ part ∈ rest, part ≠ [] ∧ Trimmed (· == mark) part :=
        fun part member => trimmed part (List.mem_cons_of_mem _ member)
      cases rest with
      | nil => simp
      | cons next others =>
          have before : part.getLast? ≠ some mark := by
            intro ends
            simpa using (trimmed part (by simp)).2.last mark ends
          have after :
              ([mark].intercalate (next :: others)).head? ≠ some mark := by
            intro starts
            simpa using (Trimmed.intercalate restTrimmed [mark]).first mark starts
          rw [List.intercalate_cons_cons, List.append_assoc,
            pair_infix_append_iff, pair_infix_append_iff,
            inductionHypothesis restTrimmed]
          simp [before, after, not_pair_infix_singleton]

end Text

end ContentSearch
