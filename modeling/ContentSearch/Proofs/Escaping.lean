import ContentSearch.Literal

/-!
# Reading escaped colons back

Only colons are escaped inside the quotes of a literal, and the backslash of an
escape is not escaped itself.  Nothing is lost all the same: every colon of an
escaped text has a backslash of its own before it, so removing one backslash
before every colon gives the text back.
-/

namespace ContentSearch

/-- Replaces each backslash and colon by a colon, from left to right. -/
def unescapeColons : List Char → List Char
  | [] => []
  | '\\' :: ':' :: rest => ':' :: unescapeColons rest
  | character :: rest => character :: unescapeColons rest

theorem escapeColons_cons (character : Char) (rest : List Char) :
    escapeColons (character :: rest) =
      (if character = ':' then ['\\', ':'] else [character]) ++
        escapeColons rest :=
  List.flatMap_cons

theorem head?_escapeColons_ne_colon (characters : List Char) :
    (escapeColons characters).head? ≠ some ':' := by
  cases characters with
  | nil => simp
  | cons character rest =>
      rw [escapeColons_cons]
      by_cases colon : character = ':'
      · simp [colon]
      · simp [colon]

theorem unescapeColons_cons {character : Char} {rest : List Char}
    (noColon : rest.head? ≠ some ':') :
    unescapeColons (character :: rest) =
      character :: unescapeColons rest := by
  rw [unescapeColons]
  rintro others - rfl
  exact noColon rfl

/-- Unescaping undoes escaping. -/
theorem unescapeColons_escapeColons (characters : List Char) :
    unescapeColons (escapeColons characters) = characters := by
  induction characters with
  | nil => rfl
  | cons character rest inductionHypothesis =>
      rw [escapeColons_cons]
      by_cases colon : character = ':'
      · subst colon
        simp [unescapeColons, inductionHypothesis]
      · rw [if_neg colon, List.singleton_append,
          unescapeColons_cons (head?_escapeColons_ne_colon rest),
          inductionHypothesis]

/-- Escaping brings in no character besides backslashes. -/
theorem mem_escapeColons_iff {character : Char}
    (noBackslash : character ≠ '\\') (characters : List Char) :
    character ∈ escapeColons characters ↔ character ∈ characters := by
  induction characters with
  | nil => simp
  | cons first rest inductionHypothesis =>
      rw [escapeColons_cons, List.mem_append, inductionHypothesis,
        List.mem_cons]
      by_cases colon : first = ':' <;> simp [colon, noBackslash]

theorem escapeColons_of_notMem {characters : List Char}
    (noColon : ':' ∉ characters) : escapeColons characters = characters := by
  induction characters with
  | nil => rfl
  | cons character rest inductionHypothesis =>
      have notFirst : character ≠ ':' :=
        (List.ne_of_not_mem_cons noColon).symm
      rw [escapeColons_cons, if_neg notFirst, List.singleton_append,
        inductionHypothesis (List.not_mem_of_not_mem_cons noColon)]

end ContentSearch
