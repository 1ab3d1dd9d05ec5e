import ContentSearch.Literal
import ContentSearch.Proofs.NumeralValues
import Mathlib.Data.List.Chain

/-!
# Ends of quotations

A quotation stands between two marks.  Its reader starts right after the first
mark and stops at the next mark that has no backslash right before it.  This
file says which texts the reader recovers: those in which every mark stands
right after a backslash and which do not end with a backslash.

Escaping colons does not change whether a text is recovered, since a backslash
comes before a colon only.  The texts of truth values, numbers, dates and times
have neither quotes nor backslashes, so the reader recovers all of them.
-/

namespace ContentSearch

namespace Text

/-- What stands before the first mark without a backslash right before it, and
what follows that mark; `previous` is the character before the text. -/
def readToMark (mark : Char) :
    Char → List Char → Option (List Char × List Char)
  | _, [] => none
  | previous, character :: rest =>
      if character = mark ∧ previous ≠ '\\' then
        some ([], rest)
      else
        (readToMark mark character rest).map fun (body, after) =>
          (character :: body, after)

/-- Every mark in the text stands right after a backslash; `previous` is the
character before the text. -/
def MarksEscaped (mark previous : Char) (body : List Char) : Prop :=
  (previous :: body).IsChain fun earlier later =>
    later = mark → earlier = '\\'

/-- The text can stand between two marks: every mark in it stands right after
a backslash, and it does not end with one. -/
structure Contained (mark : Char) (body : List Char) : Prop where
  escaped : MarksEscaped mark mark body
  ends : body.getLast? ≠ some '\\'

instance (mark previous : Char) (body : List Char) :
    Decidable (MarksEscaped mark previous body) :=
  inferInstanceAs (Decidable (List.IsChain _ _))

instance (mark : Char) (body : List Char) : Decidable (Contained mark body) :=
  decidable_of_iff (MarksEscaped mark mark body ∧ body.getLast? ≠ some '\\')
    ⟨fun parts => ⟨parts.1, parts.2⟩,
      fun contained => ⟨contained.escaped, contained.ends⟩⟩

theorem readToMark_append_eq_some_iff (mark previous : Char)
    (body rest : List Char) :
    readToMark mark previous (body ++ mark :: rest) = some (body, rest) ↔
      MarksEscaped mark previous body ∧
        (previous :: body).getLast? ≠ some '\\' := by
  induction body generalizing previous with
  | nil =>
      rw [List.nil_append, readToMark]
      by_cases backslash : previous = '\\'
      · simp [backslash, MarksEscaped]
      · simp [backslash, MarksEscaped]
  | cons character body inductionHypothesis =>
      rw [List.cons_append, readToMark, MarksEscaped,
        List.isChain_cons_cons, List.getLast?_cons_cons]
      by_cases stops : character = mark ∧ previous ≠ '\\'
      · simp [stops]
      · rw [if_neg stops, and_assoc]
        have passes : character = mark → previous = '\\' := by
          intro isMark
          by_contra noBackslash
          exact stops ⟨isMark, noBackslash⟩
        rw [and_iff_right passes, ← MarksEscaped, ← inductionHypothesis]
        simp [Option.map_eq_some_iff]

theorem readToMark_eq_some_iff_contained {mark : Char}
    (noBackslash : mark ≠ '\\') (body rest : List Char) :
    readToMark mark mark (body ++ mark :: rest) = some (body, rest) ↔
      Contained mark body := by
  rw [readToMark_append_eq_some_iff]
  have ends : (mark :: body).getLast? ≠ some '\\' ↔
      body.getLast? ≠ some '\\' := by
    rw [List.getLast?_cons]
    cases body.getLast? with
    | none => simp [noBackslash]
    | some last => simp
  rw [ends]
  exact ⟨fun parts => ⟨parts.1, parts.2⟩,
    fun contained => ⟨contained.escaped, contained.ends⟩⟩

theorem readToMark_length_lt {mark previous : Char}
    {characters body after : List Char}
    (read : readToMark mark previous characters = some (body, after)) :
    after.length < characters.length := by
  induction characters generalizing previous body with
  | nil => simp [readToMark] at read
  | cons character rest inductionHypothesis =>
      rw [readToMark] at read
      split at read
      · obtain rfl := (Prod.mk.inj (Option.some.inj read)).2
        simp
      · obtain ⟨⟨inner, others⟩, inside, equal⟩ :=
          Option.map_eq_some_iff.mp read
        obtain rfl := (Prod.mk.inj equal).2
        exact Nat.lt_succ_of_lt (inductionHypothesis inside)

theorem contained_of_forall {mark : Char} {body : List Char}
    (plain : ∀ character ∈ body, character ≠ mark ∧ character ≠ '\\') :
    Contained mark body := by
  refine ⟨?_, ?_⟩
  · refine List.isChain_cons.mpr ⟨?_, ?_⟩
    · intro first member isMark
      exact absurd isMark (plain first (List.mem_of_head? member)).1
    · refine List.Pairwise.isChain (List.pairwise_of_forall_mem_list ?_)
      intro earlier _ later member isMark
      exact absurd isMark (plain later member).1
  · intro ends
    exact (plain _ (List.mem_of_getLast? ends)).2 rfl

theorem marksEscaped_escapeColons_iff {mark : Char} (noColon : mark ≠ ':')
    (noBackslash : mark ≠ '\\') (previous : Char) (raw : List Char) :
    MarksEscaped mark previous (escapeColons raw) ↔
      MarksEscaped mark previous raw := by
  unfold MarksEscaped
  induction raw generalizing previous with
  | nil => rfl
  | cons character rest inductionHypothesis =>
      rw [escapeColons, List.flatMap_cons, ← escapeColons,
        List.isChain_cons_cons]
      by_cases colon : character = ':'
      · subst colon
        simp [inductionHypothesis, noColon.symm, noBackslash.symm]
      · simp [colon, inductionHypothesis]

theorem getLast?_escapeColons (raw : List Char) :
    (escapeColons raw).getLast? = raw.getLast? := by
  induction raw using List.reverseRecOn with
  | nil => rfl
  | append_singleton earlier last _ =>
      rw [escapeColons_append]
      by_cases colon : last = ':'
      · simp [escapeColons, colon]
      · simp [escapeColons, colon]

/-- Escaping colons does not change whether a text is contained. -/
theorem contained_escapeColons_iff {mark : Char} (noColon : mark ≠ ':')
    (noBackslash : mark ≠ '\\') (raw : List Char) :
    Contained mark (escapeColons raw) ↔ Contained mark raw := by
  have escaped :=
    marksEscaped_escapeColons_iff noColon noBackslash mark raw
  constructor
  · rintro ⟨marks, ends⟩
    exact ⟨escaped.mp marks, by rwa [getLast?_escapeColons] at ends⟩
  · rintro ⟨marks, ends⟩
    exact ⟨escaped.mpr marks, by rwa [getLast?_escapeColons]⟩

/-- The text with nothing between its quotes, which are of two kinds.  What
follows a quote that is not closed counts as quoted. -/
def outside : List Char → List Char
  | [] => []
  | character :: rest =>
      if character = '\'' ∨ character = '"' then
        match _ : readToMark character character rest with
        | some (_, after) => character :: character :: outside after
        | none => [character]
      else
        character :: outside rest
  termination_by characters => characters.length
  decreasing_by
    · exact Nat.lt_succ_of_lt (readToMark_length_lt ‹_›)
    · exact Nat.lt_succ_self _

def Unquoted (characters : List Char) : Prop :=
  ∀ character ∈ characters, character ≠ '\'' ∧ character ≠ '"'

instance (characters : List Char) : Decidable (Unquoted characters) :=
  List.decidableBAll _ characters

theorem outside_append_of_unquoted {body : List Char} (rest : List Char)
    (unquoted : Unquoted body) :
    outside (body ++ rest) = body ++ outside rest := by
  induction body with
  | nil => rfl
  | cons character body inductionHypothesis =>
      have noQuote : ¬ (character = '\'' ∨ character = '"') :=
        not_or.mpr (unquoted character (by simp))
      rw [List.cons_append, outside, if_neg noQuote, inductionHypothesis
        fun other member => unquoted other (List.mem_cons_of_mem _ member)]
      rfl

theorem outside_quotation {mark : Char} (isMark : mark = '\'' ∨ mark = '"')
    {body : List Char} (rest : List Char) (contained : Contained mark body) :
    outside (mark :: (body ++ mark :: rest)) = mark :: mark :: outside rest := by
  have noBackslash : mark ≠ '\\' := by
    rcases isMark with rfl | rfl
    all_goals decide
  have read :=
    (readToMark_eq_some_iff_contained noBackslash body rest).mpr contained
  rw [outside, if_pos isMark]
  split
  · rename_i inner after found
    obtain rfl : after = rest :=
      (Prod.mk.inj (Option.some.inj (found.symm.trans read))).2
    rfl
  · rename_i found
    exact absurd (found.symm.trans read) (by simp)

/-- A character of a truth value, a number, a date or a time. -/
def isPlain (character : Char) : Bool :=
  character.isAlphanum || ['+', '-', '.', ':'].contains character

theorem isPlain_of_isDigit {character : Char}
    (isDigit : character.isDigit = true) : isPlain character = true := by
  simp [isPlain, Char.isAlphanum, isDigit]

theorem isPlain_of_isNumeralCharacter {character : Char}
    (isNumeral : isNumeralCharacter character = true) :
    isPlain character = true := by
  rw [isNumeralCharacter, Bool.or_eq_true, List.contains_iff_mem] at isNumeral
  rcases isNumeral with isDigit | isMark
  · exact isPlain_of_isDigit isDigit
  · have marks : ['.', '+', '-', 'e', 'E'].all isPlain = true := by decide
    exact List.all_eq_true.mp marks character isMark

theorem isPlain_padded (width number : Nat) :
    (padded width number).all isPlain = true :=
  List.all_eq_true.mpr fun _ member =>
    isPlain_of_isDigit (isDigit_of_mem_padded member)

end Text

theorem Decimal.isPlain_characters (number : Decimal) :
    number.characters.all Text.isPlain = true :=
  List.all_eq_true.mpr fun character member =>
    Text.isPlain_of_isNumeralCharacter
      (number.forall_isNumeralCharacter_characters character member)

theorem Date.isPlain_characters (date : Date) :
    date.characters.all Text.isPlain = true := by
  have year : (yearCharacters date.year).all Text.isPlain = true := by
    unfold yearCharacters
    split
    · exact Text.isPlain_padded _ _
    · rw [List.all_cons, Text.isPlain_padded]
      split <;> decide
  simp only [characters, List.all_append, List.all_cons, year,
    Text.isPlain_padded]
  decide

theorem Moment.isPlain_characters (moment : Moment) :
    moment.characters.all Text.isPlain = true := by
  simp only [characters, TimeOfDay.characters, List.all_append, List.all_cons,
    moment.date.isPlain_characters, Text.isPlain_padded]
  decide

/-- A literal that is not a text is contained between quotes of both kinds. -/
theorem Literal.contained_of_forall_ne_text {mark : Char} {literal : Literal}
    (isMark : mark = '\'' ∨ mark = '"')
    (noText : ∀ value, literal ≠ .text value) :
    Text.Contained mark literal.characters := by
  have plain : literal.characters.all Text.isPlain = true := by
    cases literal with
    | truth value => cases value <;> decide
    | number value => exact value.isPlain_characters
    | text value => exact absurd rfl (noText value)
    | instant value =>
        simp only [characters, Moment.universalCharacters, List.all_append,
          List.all_cons, value.isPlain_characters, Text.isPlain_padded]
        decide
    | wallClock value => exact value.isPlain_characters
    | date value => exact value.isPlain_characters
  refine Text.contained_of_forall ?_
  intro character member
  have isPlain := List.all_eq_true.mp plain character member
  refine ⟨?_, ?_⟩
  · rintro rfl
    rcases isMark with rfl | rfl
    all_goals exact absurd isPlain (by decide)
  · rintro rfl
    exact absurd isPlain (by decide)

end ContentSearch
