import ContentSearch.Proofs.Neighbours
import ContentSearch.Url.Path

/-!
# Joined paths

What is left of the parts of a path is trimmed and not empty, and so the joined
path is trimmed.  Joining twice is joining once: parts can be joined group by
group first, and a group of slashes alone vanishes like a part of slashes alone.
Two slashes stand side by side in a joined path only where a part brings them.
-/

namespace ContentSearch

namespace Url

/-- The parts that stand in the joined path. -/
def keptParts (parts : List (List Char)) : List (List Char) :=
  (parts.map trimSlashes).filter fun part => !part.isEmpty

theorem joinCharacters_eq_intercalate (parts : List (List Char)) :
    joinCharacters parts = ['/'].intercalate (keptParts parts) :=
  rfl

@[simp]
theorem keptParts_append (first second : List (List Char)) :
    keptParts (first ++ second) = keptParts first ++ keptParts second := by
  simp [keptParts]

theorem mem_keptParts_iff {kept : List Char} {parts : List (List Char)} :
    kept ∈ keptParts parts ↔
      kept ≠ [] ∧ ∃ part ∈ parts, trimSlashes part = kept := by
  simp [keptParts, and_comm]

theorem keptParts_trimmed (parts : List (List Char)) :
    ∀ kept ∈ keptParts parts, kept ≠ [] ∧ Text.Trimmed (· == '/') kept := by
  intro kept member
  obtain ⟨nonempty, part, -, rfl⟩ := mem_keptParts_iff.mp member
  exact ⟨nonempty, Text.trimmed_trimWhere _ part⟩

theorem trimmed_joinCharacters (parts : List (List Char)) :
    Text.Trimmed (· == '/') (joinCharacters parts) :=
  Text.Trimmed.intercalate (keptParts_trimmed parts) ['/']

theorem trimSlashes_joinCharacters (parts : List (List Char)) :
    trimSlashes (joinCharacters parts) = joinCharacters parts :=
  (Text.trimWhere_eq_self_iff _).mpr (trimmed_joinCharacters parts)

theorem joinCharacters_singleton (part : List Char) :
    joinCharacters [part] = trimSlashes part := by
  by_cases nothing : trimSlashes part = [] <;>
    simp [joinCharacters, nothing]

theorem joinCharacters_eq_nil_iff (parts : List (List Char)) :
    joinCharacters parts = [] ↔ keptParts parts = [] := by
  constructor
  · intro empty
    cases split : keptParts parts with
    | nil => rfl
    | cons kept others =>
        have nonempty := (keptParts_trimmed parts kept (by simp [split])).1
        have starts := Text.head?_intercalate nonempty ['/'] others
        rw [← split, ← joinCharacters_eq_intercalate, empty] at starts
        exact absurd (List.head?_eq_none_iff.mp starts.symm) nonempty
  · intro nothing
    rw [joinCharacters_eq_intercalate, nothing]
    rfl

theorem joinCharacters_append (first second : List (List Char)) :
    joinCharacters (first ++ second) =
      if joinCharacters first = [] then joinCharacters second
      else if joinCharacters second = [] then joinCharacters first
      else joinCharacters first ++ '/' :: joinCharacters second := by
  simp only [joinCharacters_eq_nil_iff]
  rw [joinCharacters_eq_intercalate, keptParts_append]
  split_ifs with firstNothing secondNothing
  · rw [firstNothing]
    rfl
  · rw [secondNothing, List.append_nil]
    rfl
  · rw [Text.intercalate_append firstNothing secondNothing]
    simp [joinCharacters_eq_intercalate]

theorem joinCharacters_map_joinCharacters
    (groups : List (List (List Char))) :
    joinCharacters (groups.map joinCharacters) =
      joinCharacters groups.flatten := by
  induction groups with
  | nil => rfl
  | cons group rest inductionHypothesis =>
      have single : joinCharacters [joinCharacters group] =
          joinCharacters group := by
        rw [joinCharacters_singleton, trimSlashes_joinCharacters]
      rw [List.map_cons, ← List.singleton_append, joinCharacters_append, single,
        inductionHypothesis, List.flatten_cons, joinCharacters_append]

@[simp]
theorem toList_join (parts : List String) :
    (join parts).toList = joinCharacters (parts.map String.toList) := by
  simp [join]

/-- Paths can be joined group by group. -/
theorem join_map_join (groups : List (List String)) :
    join (groups.map join) = join groups.flatten := by
  have characters := joinCharacters_map_joinCharacters
    (groups.map (List.map String.toList))
  rw [← String.toList_inj, toList_join, toList_join, List.map_flatten,
    ← characters, List.map_map, List.map_map]
  congr 2
  funext parts
  exact toList_join parts

theorem joinCharacters_eq_nil_iff_slashes (parts : List (List Char)) :
    joinCharacters parts = [] ↔
      ∀ part ∈ parts, ∀ character ∈ part, character = '/' := by
  have slashes (part : List Char) : trimSlashes part = [] ↔
      ∀ character ∈ part, character = '/' := by
    simp [trimSlashes, Text.trimWhere_eq_nil_iff]
  rw [joinCharacters_eq_nil_iff]
  simp [keptParts, slashes]

theorem doubled_infix_joinCharacters_iff (parts : List (List Char)) :
    ['/', '/'] <:+: joinCharacters parts ↔
      ∃ part ∈ parts, Text.DoubledInside '/' part := by
  rw [joinCharacters_eq_intercalate,
    Text.doubled_infix_intercalate_iff (keptParts_trimmed parts)]
  simp only [← Text.doubled_infix_trimWhere_iff]
  constructor
  · rintro ⟨kept, member, doubled⟩
    obtain ⟨-, part, given, rfl⟩ := mem_keptParts_iff.mp member
    exact ⟨part, given, doubled⟩
  · rintro ⟨part, given, doubled⟩
    refine ⟨trimSlashes part, mem_keptParts_iff.mpr ⟨?_, part, given, rfl⟩,
      doubled⟩
    intro nothing
    rw [trimSlashes] at nothing
    simp [nothing] at doubled

/-- Joining group by group first makes no difference.  A joined path has no
slash at its ends, is empty exactly if the parts have nothing but slashes, and
has two slashes side by side exactly if a part has them between other
characters. -/
theorem join_groups_and_slashes_of_join :
    (∀ groups : List (List String),
      join (groups.map join) = join groups.flatten) ∧
    ∀ parts : List String,
      (join parts).toList.head? ≠ some '/' ∧
      (join parts).toList.getLast? ≠ some '/' ∧
      (join parts = "" ↔
        ∀ part ∈ parts, ∀ character ∈ part.toList, character = '/') ∧
      (['/', '/'] <:+: (join parts).toList ↔
        ∃ part ∈ parts, Text.DoubledInside '/' part.toList) := by
  refine ⟨join_map_join, ?_⟩
  intro parts
  have trimmed := trimmed_joinCharacters (parts.map String.toList)
  rw [← String.toList_eq_nil_iff, toList_join]
  refine ⟨?_, ?_, ?_, ?_⟩
  · intro starts
    simpa using trimmed.first '/' starts
  · intro ends
    simpa using trimmed.last '/' ends
  · rw [joinCharacters_eq_nil_iff_slashes]
    simp
  · rw [doubled_infix_joinCharacters_iff]
    simp

end Url

end ContentSearch
