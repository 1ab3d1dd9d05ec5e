import ContentSearch.Clause.Text
import ContentSearch.Proofs.Escaping
import ContentSearch.Proofs.Quotation

/-!
# Texts with escaped colons

Escaping puts a backslash before every colon, whatever stands before the colon.
So the escaped texts are those in which every colon stands right after a
backslash, and each of them comes from one text only, although backslashes are
not escaped.  A text is escaped character by character, so the two ends of a
range are escaped as if they were one text.
-/

namespace ContentSearch

/-- Every colon in the text stands right after a backslash. -/
def ColonsEscaped (characters : List Char) : Prop :=
  ∀ before after, characters = before ++ ':' :: after →
    before.getLast? = some '\\'

namespace Text

/-- Every mark stands right after a backslash exactly if each beginning of the
text before a mark ends with one. -/
theorem marksEscaped_iff_forall_getLast? (mark previous : Char)
    (body : List Char) :
    MarksEscaped mark previous body ↔
      ∀ before after, body = before ++ mark :: after →
        (previous :: before).getLast? = some '\\' := by
  induction body generalizing previous with
  | nil => simp [MarksEscaped]
  | cons character rest inductionHypothesis =>
      rw [MarksEscaped, List.isChain_cons_cons, ← MarksEscaped,
        inductionHypothesis]
      constructor
      · rintro ⟨first, others⟩ before after split
        cases before with
        | nil =>
            obtain ⟨isMark, -⟩ := List.cons.inj split
            rw [first isMark]
            rfl
        | cons head before =>
            obtain ⟨rfl, later⟩ := List.cons.inj split
            rw [List.getLast?_cons_cons]
            exact others before after later
      · intro all
        refine ⟨?_, ?_⟩
        · rintro rfl
          simpa using all [] rest rfl
        · rintro before after rfl
          have further := all (character :: before) after rfl
          rwa [List.getLast?_cons_cons] at further

theorem marksEscaped_colon_iff (characters : List Char) :
    MarksEscaped ':' ':' characters ↔ ColonsEscaped characters := by
  rw [marksEscaped_iff_forall_getLast?]
  refine forall₃_congr fun before after _ => ?_
  cases before with
  | nil => simp
  | cons head before => rw [List.getLast?_cons_cons]

/-- The character before a text counts only if the text starts with a mark. -/
theorem marksEscaped_congr {mark first second : Char} {body : List Char}
    (same : body.head? = some mark → (first = '\\' ↔ second = '\\')) :
    MarksEscaped mark first body ↔ MarksEscaped mark second body := by
  cases body with
  | nil => simp [MarksEscaped]
  | cons character rest =>
      rw [MarksEscaped, MarksEscaped, List.isChain_cons_cons,
        List.isChain_cons_cons]
      refine and_congr_left fun _ => ?_
      constructor
      · rintro escaped rfl
        exact (same rfl).mp (escaped rfl)
      · rintro escaped rfl
        exact (same rfl).mpr (escaped rfl)

end Text

/-- Escaping undoes unescaping exactly for texts with escaped colons. -/
theorem escapeColons_unescapeColons_eq_iff (characters : List Char) :
    escapeColons (unescapeColons characters) = characters ↔
      ColonsEscaped characters := by
  rw [← Text.marksEscaped_colon_iff]
  fun_induction unescapeColons characters with
  | case1 => simp [Text.MarksEscaped]
  | case2 rest inductionHypothesis =>
      simp [escapeColons_cons, inductionHypothesis, Text.MarksEscaped]
  | case3 character rest noEscape inductionHypothesis =>
      rw [escapeColons_cons, Text.MarksEscaped, List.isChain_cons_cons,
        ← Text.MarksEscaped]
      by_cases colon : character = ':'
      · simp [colon]
      · have noBackslash : rest.head? = some ':' →
            (':' = '\\' ↔ character = '\\') := by
          intro starts
          obtain ⟨others, rfl⟩ := List.head?_eq_some_iff.mp starts
          refine iff_of_false (by decide) ?_
          intro backslash
          exact noEscape others backslash rfl
        simp only [colon, if_false, List.singleton_append, List.cons.injEq,
          true_and, IsEmpty.forall_iff, inductionHypothesis]
        exact Text.marksEscaped_congr noBackslash

/-- An escaped text has escaped colons and comes from the unescaped text
only. -/
theorem escapeColons_eq_iff {raw escaped : List Char} :
    escapeColons raw = escaped ↔
      ColonsEscaped escaped ∧ raw = unescapeColons escaped := by
  constructor
  · rintro rfl
    rw [← escapeColons_unescapeColons_eq_iff, unescapeColons_escapeColons]
    exact ⟨rfl, rfl⟩
  · rintro ⟨colons, rfl⟩
    exact (escapeColons_unescapeColons_eq_iff escaped).mpr colons

/-- The text between the brackets of a range before its colons are escaped:
both ends in quotes. -/
def Condition.rawRange (lower upper : Bound) : List Char :=
  '\'' :: lower.value.characters ++ "' TO '".toList ++
    upper.value.characters ++ ['\'']

theorem Condition.escapeColons_rawRange (lower upper : Bound) :
    escapeColons (rawRange lower upper) =
      lower.value.quoted ++ " TO ".toList ++ upper.value.quoted := by
  have quote : escapeColons ['\''] = ['\''] := rfl
  have between : escapeColons "' TO '".toList = "' TO '".toList := by decide
  have parts : rawRange lower upper =
      ['\''] ++ lower.value.characters ++ "' TO '".toList ++
        upper.value.characters ++ ['\''] :=
    rfl
  simp only [parts, escapeColons_append, quote, between, Literal.quoted]
  simp

/-- Escaping colons is a code without loss: unescaping gives every text back,
and the texts with escaped colons are those that come from a text, each from
the unescaped one only.  A text is escaped piece by piece, so both ends of a
range are escaped as if they stood alone. -/
theorem unescapeColons_escapeColons_and_existsUnique_iff :
    (∀ raw, unescapeColons (escapeColons raw) = raw) ∧
    (∀ escaped, ColonsEscaped escaped ↔ ∃! raw, escapeColons raw = escaped) ∧
    (∀ escaped, ColonsEscaped escaped ↔
      escapeColons (unescapeColons escaped) = escaped) ∧
    Function.Injective escapeColons ∧
    (∀ first second, escapeColons (first ++ second) =
      escapeColons first ++ escapeColons second) ∧
    ∀ field lower upper,
      (Condition.range field lower upper).characters =
        field.toList ++ ':' :: (if lower.inclusive then '[' else '\x7b') ::
          escapeColons (Condition.rawRange lower upper) ++
            [if upper.inclusive then ']' else '\x7d'] ∧
      escapeColons (Condition.rawRange lower upper) =
        lower.value.quoted ++ " TO ".toList ++ upper.value.quoted := by
  refine ⟨unescapeColons_escapeColons, ?_,
    fun escaped => (escapeColons_unescapeColons_eq_iff escaped).symm, ?_,
    escapeColons_append, ?_⟩
  · intro escaped
    constructor
    · intro colons
      refine ⟨unescapeColons escaped,
        escapeColons_eq_iff.mpr ⟨colons, rfl⟩, ?_⟩
      intro raw same
      exact (escapeColons_eq_iff.mp same).2
    · rintro ⟨raw, same, -⟩
      exact (escapeColons_eq_iff.mp same).1
  · intro first second same
    rw [← unescapeColons_escapeColons first, same, unescapeColons_escapeColons]
  · intro field lower upper
    refine ⟨?_, Condition.escapeColons_rawRange lower upper⟩
    unfold Condition.characters
    simp only [Condition.escapeColons_rawRange, List.append_assoc,
      List.cons_append]

end ContentSearch
