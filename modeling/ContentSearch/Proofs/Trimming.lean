import ContentSearch.Text.Blank
import Mathlib.Data.List.DropRight
import Mathlib.Data.List.TakeWhile

/-!
# Trimmed texts

A text is trimmed if neither its first nor its last character is an unwanted
one.  Trimming makes a text trimmed, leaves a trimmed text as it is and drops
unwanted characters only, so a text with at most one wanted character is
trimmed to that character alone.  Texts that are trimmed and not empty make a
trimmed text when they are joined, whatever stands between them.
-/

namespace ContentSearch

namespace Text

variable {unwanted : Char → Bool}

/-- No unwanted character stands at either end. -/
structure Trimmed (unwanted : Char → Bool) (text : List Char) : Prop where
  first : ∀ character ∈ text.head?, unwanted character = false
  last : ∀ character ∈ text.getLast?, unwanted character = false

theorem trimWhere_eq_rdropWhile (text : List Char) :
    trimWhere unwanted text =
      (text.dropWhile unwanted).rdropWhile unwanted :=
  rfl

/-- What trimming drops is unwanted. -/
theorem exists_trimWhere_eq (unwanted : Char → Bool) (text : List Char) :
    ∃ before after, text = before ++ trimWhere unwanted text ++ after ∧
      (∀ character ∈ before, unwanted character = true) ∧
        ∀ character ∈ after, unwanted character = true := by
  refine ⟨text.takeWhile unwanted,
    (text.dropWhile unwanted).rtakeWhile unwanted, ?_, ?_, ?_⟩
  · rw [trimWhere_eq_rdropWhile, List.append_assoc,
      List.rdropWhile_append_rtakeWhile, List.takeWhile_append_dropWhile]
  · intro character member
    exact List.mem_takeWhile_imp member
  · intro character member
    exact List.mem_rtakeWhile_imp member

theorem mem_trimWhere_iff {character : Char}
    (wanted : unwanted character = false) (text : List Char) :
    character ∈ trimWhere unwanted text ↔ character ∈ text := by
  obtain ⟨before, after, split, beforeUnwanted, afterUnwanted⟩ :=
    exists_trimWhere_eq unwanted text
  have notBefore : character ∉ before := by
    intro member
    simp [beforeUnwanted character member] at wanted
  have notAfter : character ∉ after := by
    intro member
    simp [afterUnwanted character member] at wanted
  conv_rhs => rw [split]
  simp [notBefore, notAfter]

theorem trimmed_trimWhere (unwanted : Char → Bool) (text : List Char) :
    Trimmed unwanted (trimWhere unwanted text) := by
  constructor
  · intro character starts
    obtain ⟨after, split⟩ :
        trimWhere unwanted text <+: text.dropWhile unwanted :=
      List.rdropWhile_prefix unwanted _
    have startsBefore : (text.dropWhile unwanted).head? = some character := by
      rw [← split, List.head?_append, Option.mem_def.mp starts]
      rfl
    have stops := List.head?_dropWhile_not unwanted text
    rw [startsBefore] at stops
    exact stops
  · intro character ends
    obtain ⟨nonempty, rfl⟩ := List.mem_getLast?_eq_getLast ends
    rw [← Bool.not_eq_true]
    exact List.rdropWhile_last_not unwanted _ nonempty

theorem trimWhere_eq_self_iff (text : List Char) :
    trimWhere unwanted text = text ↔ Trimmed unwanted text := by
  constructor
  · intro unchanged
    rw [← unchanged]
    exact trimmed_trimWhere unwanted text
  · intro trimmed
    have front : text.dropWhile unwanted = text := by
      cases text with
      | nil => rfl
      | cons first rest =>
          have wanted : unwanted first = false := trimmed.first first rfl
          simp [wanted]
    rw [trimWhere_eq_rdropWhile, front, List.rdropWhile_eq_self_iff]
    intro nonempty
    have isLast : text.getLast nonempty ∈ text.getLast? :=
      List.getLast_mem_getLast? nonempty
    simp [trimmed.last _ isLast]

theorem filter_trimWhere (unwanted : Char → Bool) (text : List Char) :
    (trimWhere unwanted text).filter (fun character => !unwanted character) =
      text.filter fun character => !unwanted character := by
  obtain ⟨before, after, split, beforeUnwanted, afterUnwanted⟩ :=
    exists_trimWhere_eq unwanted text
  have nothingBefore :
      before.filter (fun character => !unwanted character) = [] := by
    simpa [List.filter_eq_nil_iff] using beforeUnwanted
  have nothingAfter :
      after.filter (fun character => !unwanted character) = [] := by
    simpa [List.filter_eq_nil_iff] using afterUnwanted
  conv_rhs => rw [split]
  rw [List.filter_append, List.filter_append, nothingBefore, nothingAfter,
    List.nil_append, List.append_nil]

theorem Trimmed.eq_nil_of_filter_eq_nil {text : List Char}
    (trimmed : Trimmed unwanted text)
    (nothing : text.filter (fun character => !unwanted character) = []) :
    text = [] := by
  cases text with
  | nil => rfl
  | cons first rest =>
      have wanted : unwanted first = false := trimmed.first first rfl
      simp [wanted] at nothing

/-- A trimmed text with one wanted character has no other character, because
the last one is wanted too. -/
theorem Trimmed.eq_singleton_of_filter_eq {text : List Char} {only : Char}
    (trimmed : Trimmed unwanted text)
    (single : text.filter (fun character => !unwanted character) = [only]) :
    text = [only] := by
  cases text with
  | nil => simp at single
  | cons first rest =>
      have wanted : unwanted first = false := trimmed.first first rfl
      have parts : first = only ∧
          rest.filter (fun character => !unwanted character) = [] := by
        simpa [wanted] using single
      obtain ⟨rfl, restUnwanted⟩ := parts
      cases rest using List.reverseRecOn with
      | nil => rfl
      | append_singleton earlier last =>
          have lastWanted : unwanted last = false :=
            trimmed.last last (by simp [List.getLast?_cons])
          simp [lastWanted] at restUnwanted

theorem trimWhere_eq_nil_iff (text : List Char) :
    trimWhere unwanted text = [] ↔
      text.filter (fun character => !unwanted character) = [] := by
  rw [← filter_trimWhere unwanted text]
  constructor
  · intro empty
    rw [empty]
    rfl
  · exact (trimmed_trimWhere unwanted text).eq_nil_of_filter_eq_nil

theorem trimWhere_eq_singleton_iff {only : Char}
    (wanted : unwanted only = false) (text : List Char) :
    trimWhere unwanted text = [only] ↔
      text.filter (fun character => !unwanted character) = [only] := by
  rw [← filter_trimWhere unwanted text]
  constructor
  · intro single
    rw [single]
    simp [wanted]
  · exact (trimmed_trimWhere unwanted text).eq_singleton_of_filter_eq

theorem head?_intercalate {first : List Char} (nonempty : first ≠ [])
    (separator : List Char) (rest : List (List Char)) :
    (separator.intercalate (first :: rest)).head? = first.head? := by
  obtain ⟨character, others, rfl⟩ := List.exists_cons_of_ne_nil nonempty
  cases rest with
  | nil => simp
  | cons second rest => simp [List.intercalate_cons_cons]

theorem intercalate_append {first second : List (List Char)}
    (firstGiven : first ≠ []) (secondGiven : second ≠ [])
    (separator : List Char) :
    separator.intercalate (first ++ second) =
      separator.intercalate first ++ separator ++
        separator.intercalate second := by
  induction first with
  | nil => contradiction
  | cons part rest inductionHypothesis =>
      have more : rest ++ second ≠ [] :=
        List.append_ne_nil_of_right_ne_nil rest secondGiven
      rw [List.cons_append, List.intercalate_cons_of_ne_nil more]
      by_cases last : rest = []
      · simp [last]
      · rw [inductionHypothesis last, List.intercalate_cons_of_ne_nil last]
        simp

theorem getLast?_intercalate {last : List Char} (nonempty : last ≠ [])
    (separator : List Char) (earlier : List (List Char)) :
    (separator.intercalate (earlier ++ [last])).getLast? =
      last.getLast? := by
  by_cases alone : earlier = []
  · simp [alone]
  · rw [intercalate_append alone (by simp), List.intercalate_singleton,
      List.getLast?_append_of_ne_nil _ nonempty]

theorem Trimmed.intercalate {parts : List (List Char)}
    (trimmed : ∀ part ∈ parts, part ≠ [] ∧ Trimmed unwanted part)
    (separator : List Char) :
    Trimmed unwanted (separator.intercalate parts) := by
  constructor
  · cases parts with
    | nil => simp
    | cons first rest =>
        obtain ⟨nonempty, firstTrimmed⟩ := trimmed first (by simp)
        rw [head?_intercalate nonempty]
        exact firstTrimmed.first
  · cases parts using List.reverseRecOn with
    | nil => simp
    | append_singleton earlier last =>
        obtain ⟨nonempty, lastTrimmed⟩ := trimmed last (by simp)
        rw [getLast?_intercalate nonempty]
        exact lastTrimmed.last

end Text

end ContentSearch
