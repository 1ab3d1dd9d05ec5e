import ContentSearch.Text.Blank
import Mathlib.Data.List.DropRight
import Mathlib.Data.List.TakeWhile

/-!
# Cutting texts at marks

A reader of a text that was joined with marks cuts it at the first mark, at the
last one or at all of them.  Where the joined parts do not have the mark, the
cuts give the parts back.
-/

namespace ContentSearch

namespace Text

/-- The text before the first mark and, if there is a mark, the text after
it. -/
def cutFirst (mark : Char) (text : List Char) :
    List Char × Option (List Char) :=
  (text.takeWhile (· != mark), (text.dropWhile (· != mark)).tail?)

/-- The texts before and after the last mark, if there is a mark. -/
def cutLast? (mark : Char) (text : List Char) :
    Option (List Char × List Char) :=
  match cutFirst mark text.reverse with
  | (_, none) => none
  | (after, some before) => some (before.reverse, after.reverse)

private theorem bne_of_not_mem {mark : Char} {text : List Char}
    (unmarked : mark ∉ text) :
    ∀ character ∈ text, (character != mark) = true := by
  intro character member
  have different : character ≠ mark := by
    rintro rfl
    exact unmarked member
  simpa using different

theorem cutFirst_append {mark : Char} {before : List Char}
    (unmarked : mark ∉ before) (after : List Char) :
    cutFirst mark (before ++ mark :: after) = (before, some after) := by
  have passes := bne_of_not_mem unmarked
  unfold cutFirst
  rw [List.takeWhile_append_of_pos passes, List.dropWhile_append_of_pos passes]
  simp

theorem cutFirst_of_not_mem {mark : Char} {text : List Char}
    (unmarked : mark ∉ text) : cutFirst mark text = (text, none) := by
  have passes := bne_of_not_mem unmarked
  unfold cutFirst
  rw [List.takeWhile_eq_self_iff.mpr passes,
    List.dropWhile_eq_nil_iff.mpr passes]
  rfl

theorem not_mem_cutFirst (mark : Char) (text : List Char) :
    mark ∉ (cutFirst mark text).1 := by
  intro member
  have passes : mark ∈ text.takeWhile (· != mark) := member
  simpa using List.mem_takeWhile_imp passes

/-- The first mark stands behind a text exactly if the text has none. -/
theorem cutFirst_append_eq_iff (mark : Char) (before after : List Char) :
    cutFirst mark (before ++ mark :: after) = (before, some after) ↔
      mark ∉ before := by
  constructor
  · intro cut
    have first := not_mem_cutFirst mark (before ++ mark :: after)
    rw [cut] at first
    exact first
  · intro unmarked
    exact cutFirst_append unmarked after

theorem cutLast?_append {mark : Char} {after : List Char}
    (unmarked : mark ∉ after) (before : List Char) :
    cutLast? mark (before ++ mark :: after) = some (before, after) := by
  have reversed : (before ++ mark :: after).reverse =
      after.reverse ++ mark :: before.reverse := by
    simp
  have unmarkedReverse : mark ∉ after.reverse := by simpa using unmarked
  rw [cutLast?, reversed, cutFirst_append unmarkedReverse]
  simp

theorem cutLast?_of_not_mem {mark : Char} {text : List Char}
    (unmarked : mark ∉ text) : cutLast? mark text = none := by
  have unmarkedReverse : mark ∉ text.reverse := by simpa using unmarked
  rw [cutLast?, cutFirst_of_not_mem unmarkedReverse]

/-- Every text has a last stretch without the mark.  What stands before it is
empty or ends with the mark. -/
theorem exists_last_stretch (mark : Char) (text : List Char) :
    ∃ before last, text = before ++ last ∧ mark ∉ last ∧
      ∀ character ∈ before.getLast?, character = mark := by
  refine ⟨text.rdropWhile (· != mark), text.rtakeWhile (· != mark),
    List.rdropWhile_append_rtakeWhile.symm, ?_, ?_⟩
  · intro member
    simpa using List.mem_rtakeWhile_imp member
  · intro character ends
    obtain ⟨nonempty, rfl⟩ := List.mem_getLast?_eq_getLast ends
    simpa using List.rdropWhile_last_not (· != mark) text nonempty

theorem exists_cut_of_mem {mark : Char} {text : List Char}
    (marked : mark ∈ text) :
    ∃ before after, text = before ++ mark :: after ∧ mark ∉ after := by
  obtain ⟨before, after, rfl, unmarked, ends⟩ := exists_last_stretch mark text
  cases before using List.reverseRecOn with
  | nil => exact absurd marked unmarked
  | append_singleton earlier last =>
      obtain rfl : last = mark := ends last List.getLast?_concat
      exact ⟨earlier, after, by simp, unmarked⟩

theorem not_mem_of_mem_splitOn {mark : Char} {text piece : List Char}
    (member : piece ∈ text.splitOn mark) : mark ∉ piece := by
  induction text generalizing piece with
  | nil =>
      rw [List.splitOn_nil, List.mem_singleton] at member
      simp [member]
  | cons character rest inductionHypothesis =>
      rw [List.splitOn_cons_eq_if_modifyHead] at member
      by_cases isMark : character = mark
      · simp only [isMark, beq_self_eq_true, if_true, List.mem_cons] at member
        rcases member with rfl | member
        · simp
        · exact inductionHypothesis member
      · obtain ⟨first, others, pieces⟩ :=
          List.exists_cons_of_ne_nil (List.splitOn_ne_nil mark rest)
        simp only [beq_eq_false_iff_ne.mpr isMark, Bool.false_eq_true, if_false,
          pieces, List.modifyHead_cons, List.mem_cons] at member
        rcases member with rfl | member
        · have unmarked : mark ∉ first :=
            inductionHypothesis (by simp [pieces])
          simp [unmarked, Ne.symm isMark]
        · exact inductionHypothesis (by simp [pieces, member])

/-- Cutting a text at a mark drops the marks and nothing else. -/
theorem flatten_splitOn (mark : Char) (text : List Char) :
    (text.splitOn mark).flatten =
      text.filter fun character => character != mark := by
  induction text with
  | nil => rfl
  | cons character rest inductionHypothesis =>
      rw [List.splitOn_cons_eq_if_modifyHead]
      by_cases isMark : character = mark
      · simp [isMark, inductionHypothesis]
      · obtain ⟨first, others, pieces⟩ :=
          List.exists_cons_of_ne_nil (List.splitOn_ne_nil mark rest)
        rw [pieces] at inductionHypothesis
        simp [isMark, pieces, ← inductionHypothesis]

end Text

end ContentSearch
