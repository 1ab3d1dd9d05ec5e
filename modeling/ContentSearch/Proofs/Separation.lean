import ContentSearch.Proofs.Surroundings
import ContentSearch.Proofs.Tokens
import ContentSearch.Proofs.Writing

/-!
# Spaces around modifiers

A modifier brings one space before it and none after it.  That sets it apart
from its neighbours as long as it is added where a connective is wanted: a
connective, another modifier or the end follows, and a restriction or another
modifier precedes.

Modifiers can also be added where a restriction is wanted.  A restriction that
follows is then glued to the modifier, so that the digits at the start of the
one continue the number at the end of the other, and after a connective there
are two spaces.  This file says exactly when a modifier is set apart, and which
pairs of a number and a restriction are written alike.
-/

namespace ContentSearch

theorem Modifier.getLast?_characters_ne (modifier : Modifier) :
    modifier.characters.getLast? ≠ some ' ' := by
  have count (before : List Char) (number : Nat) :
      (before ++ Text.decimal number).getLast? ≠ some ' ' := by
    intro last
    rw [List.getLast?_append_of_ne_nil _ (Text.decimal_ne_nil number)] at last
    have isDigit := Text.isDigit_of_mem_decimal (List.mem_of_getLast? last)
    exact absurd isDigit (by decide)
  unfold characters
  cases modifier with
  | sort field descending =>
      simp only [List.getLast?_append, List.getLast?_singleton,
        Option.some_or]
      decide
  | top number => exact count _ _
  | skip number => exact count _ _

namespace Clause

/-- The clauses with a text; only a free text can be without one. -/
def shown (clauses : List Clause) : List Clause :=
  clauses.filter fun clause => !clause.characters.isEmpty

theorem head?_listCharacters (clauses : List Clause) :
    (listCharacters clauses).head? =
      (shown clauses).head?.bind fun clause => clause.characters.head? := by
  induction clauses with
  | nil => rfl
  | cons clause rest inductionHypothesis =>
      rw [listCharacters]
      cases text : clause.characters with
      | nil => simp [shown, text, inductionHypothesis]
      | cons first others => simp [shown, text]

theorem getLast?_listCharacters (clauses : List Clause) :
    (listCharacters clauses).getLast? =
      (shown clauses).getLast?.bind fun clause =>
        clause.characters.getLast? := by
  induction clauses using List.reverseRecOn with
  | nil => rfl
  | append_singleton earlier clause inductionHypothesis =>
      have single : listCharacters [clause] = clause.characters := by
        simp [listCharacters]
      rw [listCharacters_append, single, shown, List.filter_append]
      by_cases text : clause.characters = []
      · simp [text, inductionHypothesis, shown]
      · rw [List.getLast?_append_of_ne_nil _ text]
        simp [text]

/-- The modifier has its own space and no other before it, and the end of the
sequence or a space after it. -/
structure SetApart (before : List Clause) (modifier : Modifier)
    (after : List Clause) : Prop where
  own : ∃ first rest, modifier.characters = ' ' :: first :: rest ∧ first ≠ ' '
  before : (listCharacters before).getLast? ≠ some ' '
  after : ∀ character ∈ (listCharacters after).head?, character = ' '

theorem head?_characters_of_role?_ne {clause : Clause}
    (noRestriction : clause.role? ≠ some .restriction) :
    clause.characters.head? = some ' ' := by
  cases clause with
  | connective word => simp [characters]
  | modifier adjustment =>
      obtain ⟨rest, equal⟩ := adjustment.exists_characters_eq
      simp [characters, equal]
  | _ => exact absurd rfl noRestriction

theorem getLast?_characters_eq_space_iff (clause : Clause) :
    clause.characters.getLast? = some ' ' ↔
      clause.role? = some .connective ∨
        clause.role? = some .restriction ∧
          clause.characters.getLast? = some ' ' := by
  cases clause with
  | connective word =>
      rw [characters, List.getLast?_concat]
      simp [role?]
  | modifier adjustment =>
      simp [characters, role?, adjustment.getLast?_characters_ne]
  | _ => simp [role?]

/-- The last text before a modifier is not a connective and not a restriction
that ends with a space, and the first text after it is not a restriction that
begins with anything else. -/
structure Clear (before after : List Clause) : Prop where
  before : ∀ last ∈ (shown before).getLast?,
    last.role? ≠ some .connective ∧
      (last.role? = some .restriction → last.characters.getLast? ≠ some ' ')
  after : ∀ next ∈ (shown after).head?, next.role? = some .restriction →
    next.characters.head? = some ' '

theorem setApart_iff_clear (before : List Clause) (modifier : Modifier)
    (after : List Clause) :
    SetApart before modifier after ↔ Clear before after := by
  have beforeIff : (listCharacters before).getLast? ≠ some ' ' ↔
      ∀ last ∈ (shown before).getLast?,
        last.role? ≠ some .connective ∧
          (last.role? = some .restriction →
            last.characters.getLast? ≠ some ' ') := by
    rw [getLast?_listCharacters]
    cases (shown before).getLast? with
    | none => simp
    | some last =>
        simp only [Option.bind_some, Option.mem_some, forall_eq']
        rw [Ne, getLast?_characters_eq_space_iff]
        tauto
  have afterIff :
      (∀ character ∈ (listCharacters after).head?, character = ' ') ↔
        ∀ next ∈ (shown after).head?, next.role? = some .restriction →
          next.characters.head? = some ' ' := by
    rw [head?_listCharacters]
    cases first : (shown after).head? with
    | none => simp
    | some next =>
        have text : next.characters ≠ [] := by
          have member := List.mem_of_head? first
          simpa [shown] using (List.mem_filter.mp member).2
        obtain ⟨character, rest, equal⟩ := List.exists_cons_of_ne_nil text
        simp only [Option.bind_some, Option.mem_some, forall_eq']
        constructor
        · intro spaces _
          rw [equal, List.head?_cons]
          exact congrArg some (spaces character (by rw [equal]; rfl))
        · intro spaces other isFirst
          by_cases role : next.role? = some .restriction
          · rw [spaces role] at isFirst
            exact (Option.some.inj isFirst).symm
          · rw [head?_characters_of_role?_ne role] at isFirst
            exact (Option.some.inj isFirst).symm
  constructor
  · intro apart
    exact ⟨beforeIff.mp apart.before, afterIff.mp apart.after⟩
  · intro clear
    obtain ⟨rest, equal⟩ := modifier.exists_characters_eq
    exact ⟨⟨'.', rest, equal, by decide⟩, beforeIff.mpr clear.before,
      afterIff.mpr clear.after⟩

theorem characters_ne_nil_of_role?_ne {clause : Clause}
    (noRestriction : clause.role? ≠ some .restriction) :
    clause.characters ≠ [] := by
  have first := head?_characters_of_role?_ne noRestriction
  intro empty
  rw [empty] at first
  exact absurd first (by simp)

theorem head?_roles_ne_restriction {before after : List Clause}
    {modifier : Modifier}
    (alternating : Alternating (roles (before ++ .modifier modifier :: after)))
    (wanted : roles before ∈ Stage.language .wantsConnective) :
    (roles after).head? ≠ some .restriction := by
  intro first
  obtain ⟨rest, split⟩ : ∃ rest, roles after = .restriction :: rest :=
    ⟨_, List.eq_cons_of_mem_head? first⟩
  have whole : roles (before ++ .modifier modifier :: after) =
      (roles before ++ [.restriction]) ++ rest := by
    rw [roles_append, ← List.singleton_append, roles_append, split]
    simp [roles, role?]
  rw [whole] at alternating
  obtain ⟨stage, member⟩ :=
    (alternating_iff_exists_mem_language _).mp alternating.of_append
  obtain ⟨-, earlier⟩ := (Stage.append_mem_language_iff _ _ _).mp member
  exact absurd (Stage.eq_of_mem_language wanted earlier) (by decide)

theorem role?_head?_shown_ne {clauses : List Clause}
    (noRestriction : (roles clauses).head? ≠ some .restriction) :
    ∀ next ∈ (shown clauses).head?, next.role? ≠ some .restriction := by
  cases clauses with
  | nil => simp [shown]
  | cons clause rest =>
      have ofClause : clause.role? ≠ some .restriction := by
        intro role
        exact noRestriction (by simp [roles, role])
      have text := characters_ne_nil_of_role?_ne ofClause
      intro next first
      obtain rfl : clause = next := by
        simpa [shown, text] using first
      exact ofClause

theorem role?_getLast?_shown_ne {clauses : List Clause}
    (wanted : roles clauses ∈ Stage.language .wantsConnective)
    (texts : ∀ clause ∈ clauses, clause.role? = some .restriction →
      clause.characters ≠ []) :
    ∀ last ∈ (shown clauses).getLast?,
      last ∈ clauses ∧ last.role? ≠ some .connective := by
  have all : shown clauses = clauses := by
    refine List.filter_eq_self.mpr ?_
    intro clause member
    by_cases role : clause.role? = some .restriction
    · simpa using texts clause member role
    · simpa using characters_ne_nil_of_role?_ne role
  rw [all]
  intro last isLast
  refine ⟨List.mem_of_getLast? isLast, ?_⟩
  cases last with
  | connective word =>
      exact absurd isLast ((getLast?_of_mem_language wanted).2 word)
  | _ => simp [role?]

/-- Where a connective is wanted, a modifier is set apart after restrictions
that do not end with a space. -/
theorem setApart_of_mem_language {before after : List Clause}
    {modifier : Modifier}
    (alternating : Alternating (roles (before ++ .modifier modifier :: after)))
    (wanted : roles before ∈ Stage.language .wantsConnective)
    (texts : ∀ clause ∈ before, clause.role? = some .restriction →
      ∃ last ∈ clause.characters.getLast?, last ≠ ' ') :
    SetApart before modifier after := by
  refine (setApart_iff_clear _ _ _).mpr ⟨?_, ?_⟩
  · intro last isLast
    obtain ⟨member, noConnective⟩ :=
      role?_getLast?_shown_ne wanted (by
        rintro clause member role empty
        obtain ⟨last, isLast, -⟩ := texts clause member role
        rw [empty] at isLast
        exact absurd isLast (by simp)) last isLast
    refine ⟨noConnective, ?_⟩
    intro role ends
    obtain ⟨other, isOther, noSpace⟩ := texts last member role
    exact noSpace (Option.some.inj (isOther.symm.trans ends))
  · intro next first role
    have noRestriction := head?_roles_ne_restriction alternating wanted
    exact absurd role (role?_head?_shown_ne noRestriction next first)

/-- A number and a text after it are read back if the text does not go on with
digits. -/
theorem decimal_append_inj {first second : Nat} {rest others : List Char}
    (stopsFirst : ∀ character ∈ rest.head?, character.isDigit = false)
    (stopsSecond : ∀ character ∈ others.head?, character.isDigit = false)
    (equal : Text.decimal first ++ rest = Text.decimal second ++ others) :
    first = second ∧ rest = others := by
  have isDigit (number : Nat) :
      ∀ character ∈ Text.decimal number, character.isDigit = true :=
    fun character => Text.isDigit_of_mem_decimal
  have digits : Text.decimal first = Text.decimal second := by
    rw [← Text.takeWhile_append_of_stops (isDigit first) stopsFirst, equal,
      Text.takeWhile_append_of_stops (isDigit second) stopsSecond]
  refine ⟨?_, ?_⟩
  · rw [← Text.ofDigitChars_decimal first, digits, Text.ofDigitChars_decimal]
  · rw [digits] at equal
    exact List.append_cancel_left equal

/-- Two numbers and the clauses after them, at one place of a query, are
written alike if the texts that begin with the numbers are the same. -/
theorem listCharacters_count_eq_iff {count : UInt64 → Modifier}
    (isCount : count = .top ∨ count = .skip) (surrounding : Surrounding)
    (first second : Clause) (number other : UInt64) :
    listCharacters (surrounding.fill [.modifier (count number), first]) =
        listCharacters (surrounding.fill [.modifier (count other), second]) ↔
      Text.decimal number.toNat ++ first.characters =
        Text.decimal other.toNat ++ second.characters := by
  obtain ⟨word, text⟩ : ∃ word, ∀ value,
      (count value).characters = word ++ Text.decimal value.toNat := by
    rcases isCount with rfl | rfl
    · exact ⟨" .TOP:".toList, fun value => rfl⟩
    · exact ⟨" .SKIP:".toList, fun value => rfl⟩
  have pair (value : UInt64) (clause : Clause) :
      listCharacters [.modifier (count value), clause] =
        word ++ (Text.decimal value.toNat ++ clause.characters) := by
    simp only [listCharacters, characters, text, List.append_nil,
      List.append_assoc]
  rw [Surrounding.listCharacters_fill_eq_iff, pair, pair,
    List.append_right_inj]

/-- In a query that is written, at every depth, a modifier is set apart unless
the last text before it is a connective or a restriction that ends with a
space, or the first text after it is a restriction that does not begin with
one.  A modifier that is added where a connective is wanted has no restriction
after it, and is set apart if the restrictions before it have texts that do not
end with a space.

A number and the clause after it are written like another number and clause
exactly if digits move from the text of the clause to the number, or back.
Between clauses that do not begin with digits nothing moves. -/
theorem written_modifiers_setApart_iff {calls : List Call} {draft : AnyDraft}
    (written : AnyDraft.ofCalls? calls = some draft) :
    (∀ sequence ∈ sequences draft.clauses, ∀ before modifier after,
      sequence = before ++ .modifier modifier :: after →
        (SetApart before modifier after ↔ Clear before after) ∧
        (roles before ∈ Stage.language .wantsConnective →
          (∀ next ∈ (shown after).head?, next.role? ≠ some .restriction) ∧
          ((∀ clause ∈ before, clause.role? = some .restriction →
              ∃ last ∈ clause.characters.getLast?, last ≠ ' ') →
            SetApart before modifier after))) ∧
    ∀ count : UInt64 → Modifier, count = .top ∨ count = .skip →
      ∀ surrounding : Surrounding, ∀ number first,
        draft.clauses = surrounding.fill [.modifier (count number), first] →
          ∀ other second,
            (listCharacters draft.clauses =
                listCharacters
                  (surrounding.fill [.modifier (count other), second]) ↔
              ∃ digits,
                Text.decimal other.toNat =
                      Text.decimal number.toNat ++ digits ∧
                    first.characters = digits ++ second.characters ∨
                  Text.decimal number.toNat =
                      Text.decimal other.toNat ++ digits ∧
                    second.characters = digits ++ first.characters) ∧
            ((∀ character ∈ first.characters.head?,
                character.isDigit = false) →
              (∀ character ∈ second.characters.head?,
                character.isDigit = false) →
              (listCharacters draft.clauses =
                  listCharacters
                    (surrounding.fill [.modifier (count other), second]) ↔
                number = other ∧ first.characters = second.characters)) := by
  refine ⟨?_, ?_⟩
  · rintro sequence member before modifier after rfl
    have alternating :
        Alternating (roles (before ++ .modifier modifier :: after)) := by
      have parts := (AnyDraft.ofCalls?_eq_some_iff calls draft).mp written
      have fits := parts.fits
      rw [← parts.clauses] at fits
      exact fits.alternating member
    refine ⟨setApart_iff_clear _ _ _, ?_⟩
    intro wanted
    refine ⟨role?_head?_shown_ne ?_, setApart_of_mem_language alternating wanted⟩
    exact head?_roles_ne_restriction alternating wanted
  · intro count isCount surrounding number first place other second
    rw [place, listCharacters_count_eq_iff isCount]
    refine ⟨?_, ?_⟩
    · rw [List.append_eq_append_iff]
      simp only [exists_or]
    · intro stopsFirst stopsSecond
      constructor
      · intro equal
        obtain ⟨numbers, texts⟩ :=
          decimal_append_inj stopsFirst stopsSecond equal
        exact ⟨UInt64.toNat.inj numbers, texts⟩
      · rintro ⟨rfl, texts⟩
        rw [texts]

/-- In a nested query, the modifier between a term and a connective is set
apart, and the one between a connective and a term is glued to the term. -/
theorem setApart_in_nested_query :
    (AnyDraft.ofCalls? [.nest [.condition (.term "a"), .modify (.top 5),
        .connect .and, .modify (.skip 2), .condition (.term "b")]]).isSome ∧
      SetApart [condition (.term "a")] (.top 5)
        [connective .and, modifier (.skip 2), condition (.term "b")] ∧
      ¬ SetApart [condition (.term "a"), modifier (.top 5), connective .and]
        (.skip 2) [condition (.term "b")] := by
  have apart := (@written_modifiers_setApart_iff
    [.nest [.condition (.term "a"), .modify (.top 5), .connect .and,
      .modify (.skip 2), .condition (.term "b")]] _ rfl).1
    [condition (.term "a"), modifier (.top 5), connective .and,
      modifier (.skip 2), condition (.term "b")] (.tail _ (.head _))
  refine ⟨rfl, ?_, ?_⟩
  · refine (apart _ _ _ rfl).1.mpr ⟨?_, ?_⟩
    · intro last isLast
      obtain rfl : condition (.term "a") = last := Option.some.inj isLast
      exact ⟨by decide, fun _ => by decide⟩
    · intro next isNext isRestriction
      obtain rfl : connective .and = next := Option.some.inj isNext
      exact absurd isRestriction (by decide)
  · intro separated
    have spaceBefore := ((apart [condition (.term "a"), modifier (.top 5),
      connective .and] _ _ rfl).1.mp separated).after (condition (.term "b")) rfl
    exact absurd (spaceBefore rfl) (by decide)

/-- A modifier before a term is glued to it, and a page of one before a term
that begins with a digit reads like a page of twelve. -/
theorem top_fuses_with_term :
    (¬ ∀ calls draft, AnyDraft.ofCalls? calls = some draft →
      ∀ sequence ∈ sequences draft.clauses, ∀ before modifier after,
        sequence = before ++ .modifier modifier :: after →
          SetApart before modifier after) ∧
    ¬ ∀ number other first second draft otherDraft,
      AnyDraft.ofCalls? [.modify (.top number), .condition (.term first)] =
          some draft →
        AnyDraft.ofCalls? [.modify (.top other), .condition (.term second)] =
            some otherDraft →
          number ≠ other →
            listText draft.clauses ≠ listText otherDraft.clauses := by
  have one : AnyDraft.ofCalls? [.modify (.top 1), .condition (.term "2x")] =
      some _ := rfl
  have twelve : AnyDraft.ofCalls? [.modify (.top 12), .condition (.term "x")] =
      some _ := rfl
  constructor
  · intro allApart
    have apart := allApart _ _ one _ (.head _) [] (.top 1) _ rfl
    exact absurd (apart.after '2' rfl) (by decide)
  · intro toldApart
    exact toldApart 1 12 "2x" "x" _ _ one twelve (by decide) rfl

end Clause

end ContentSearch
