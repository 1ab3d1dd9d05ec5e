import ContentSearch.Proofs.Tokens
import ContentSearch.Proofs.Writing

/-!
# The text of a query can be read in one way

The text of a query is the text of its tokens, and the tokens are read back one
after the other.  The brackets among them show where nested queries begin and
end, so the tokens give the clauses.

Two kinds of clauses cannot be told apart by their texts.  A literal is written
like the text literal with the same characters, and the condition that a field
has not a value is written like the negation of the condition that it has.  So
what is read back is the plain form of the clauses, in which literals are texts
and such conditions are negations.
-/

namespace ContentSearch

namespace Clause

/-- The clause that a condition is read as. -/
def plainCondition : Condition → Clause
  | .different field value =>
      negated [condition (.equal field value.plain)]
  | restriction => condition restriction.plain

mutual

/-- The clause that a clause is read as. -/
def plain : Clause → Clause
  | condition restriction => plainCondition restriction
  | nested inner => nested (listPlain inner)
  | negated inner => negated (listPlain inner)
  | connective word => connective word
  | modifier adjustment => modifier adjustment

def listPlain : List Clause → List Clause
  | [] => []
  | clause :: rest => clause.plain :: listPlain rest

end

def conditionTokens : Condition → List Token
  | .different field value =>
      [.negatedOpening, .condition (.equal field value.plain), .closing]
  | restriction => [.condition restriction.plain]

mutual

def tokens : Clause → List Token
  | condition restriction => conditionTokens restriction
  | nested inner => .opening :: (listTokens inner ++ [.closing])
  | negated inner => .negatedOpening :: (listTokens inner ++ [.closing])
  | connective word => [.connective word]
  | modifier adjustment => [.modifier adjustment]

def listTokens : List Clause → List Token
  | [] => []
  | clause :: rest => clause.tokens ++ listTokens rest

end

theorem flatMap_conditionTokens (restriction : Condition) :
    (conditionTokens restriction).flatMap Token.characters =
      restriction.characters := by
  cases restriction with
  | different field value =>
      have inside : (Condition.equal field value.plain).characters =
          field.toList ++ ':' :: value.quoted := by
        rw [← Literal.quoted_plain value]
        rfl
      unfold Condition.characters
      simp only [conditionTokens, List.flatMap_cons, List.flatMap_nil,
        Token.characters, inside, List.append_nil, List.append_assoc]
  | _ => simp [conditionTokens, Token.characters]

mutual

theorem flatMap_tokens : ∀ clause : Clause,
    clause.tokens.flatMap Token.characters = clause.characters
  | condition restriction => by
      rw [tokens, characters, flatMap_conditionTokens]
  | nested inner => by
      simp only [tokens, characters, List.flatMap_cons, List.flatMap_append,
        flatMap_listTokens inner, Token.characters, List.flatMap_nil,
        List.append_nil, List.nil_append, List.cons_append]
  | negated inner => by
      simp only [tokens, characters, List.flatMap_cons, List.flatMap_append,
        flatMap_listTokens inner, Token.characters, List.flatMap_nil,
        List.append_nil, List.append_assoc]
  | connective word => by simp [tokens, characters, Token.characters]
  | modifier adjustment => by simp [tokens, characters, Token.characters]

theorem flatMap_listTokens : ∀ clauses : List Clause,
    (listTokens clauses).flatMap Token.characters = listCharacters clauses
  | [] => rfl
  | clause :: rest => by
      rw [listTokens, List.flatMap_append, flatMap_tokens clause,
        flatMap_listTokens rest, listCharacters]

end

end Clause

/-- A query that is read: the clauses that stand in the innermost open bracket,
and for every open bracket, from the inside out, whether it negates and which
clauses stand before it. -/
structure Reading where
  clauses : List Clause
  pending : List (Bool × List Clause)

namespace Reading

def add (reading : Reading) (clauses : List Clause) : Reading :=
  ⟨reading.clauses ++ clauses, reading.pending⟩

/-- Reads one more token.  A closing bracket that was not opened is skipped. -/
def next (reading : Reading) : Token → Reading
  | .condition restriction => reading.add [.condition restriction]
  | .connective word => reading.add [.connective word]
  | .modifier adjustment => reading.add [.modifier adjustment]
  | .opening => ⟨[], (false, reading.clauses) :: reading.pending⟩
  | .negatedOpening => ⟨[], (true, reading.clauses) :: reading.pending⟩
  | .closing =>
      match reading.pending with
      | [] => reading
      | (false, before) :: pending =>
          ⟨before ++ [.nested reading.clauses], pending⟩
      | (true, before) :: pending =>
          ⟨before ++ [.negated reading.clauses], pending⟩

theorem foldl_conditionTokens (restriction : Condition)
    (reading : Reading) :
    (Clause.conditionTokens restriction).foldl next reading =
      reading.add [Clause.plainCondition restriction] := by
  cases restriction <;> rfl

mutual

theorem foldl_tokens : ∀ (clause : Clause) (reading : Reading),
    clause.tokens.foldl next reading = reading.add [clause.plain]
  | .condition restriction, reading => by
      rw [Clause.tokens, Clause.plain, foldl_conditionTokens]
  | .nested inner, reading => by
      rw [Clause.tokens, List.foldl_cons, List.foldl_append,
        foldl_listTokens inner, Clause.plain]
      rfl
  | .negated inner, reading => by
      rw [Clause.tokens, List.foldl_cons, List.foldl_append,
        foldl_listTokens inner, Clause.plain]
      rfl
  | .connective word, reading => by simp [Clause.tokens, Clause.plain, next]
  | .modifier adjustment, reading => by
      simp [Clause.tokens, Clause.plain, next]

theorem foldl_listTokens : ∀ (clauses : List Clause) (reading : Reading),
    (Clause.listTokens clauses).foldl next reading =
      reading.add (Clause.listPlain clauses)
  | [], reading => by
      simp [Clause.listTokens, Clause.listPlain, add]
  | clause :: rest, reading => by
      rw [Clause.listTokens, List.foldl_append, foldl_tokens clause,
        foldl_listTokens rest, Clause.listPlain]
      simp [add]

end

end Reading

namespace Clause

theorem listPlain_eq_of_listTokens_eq {first second : List Clause}
    (equal : listTokens first = listTokens second) :
    listPlain first = listPlain second := by
  have readings := congrArg (List.foldl Reading.next ⟨[], []⟩) equal
  rw [Reading.foldl_listTokens, Reading.foldl_listTokens] at readings
  simpa [Reading.add] using congrArg Reading.clauses readings

theorem head?_tokens {clause : Clause} {token : Token}
    (first : token ∈ clause.tokens.head?)
    (starts : token.startsRestriction = true) :
    clause.role? = some .restriction := by
  cases clause with
  | connective word =>
      obtain rfl : Token.connective word = token := by
        simpa [tokens] using first
      simp [Token.startsRestriction] at starts
  | modifier adjustment =>
      obtain rfl : Token.modifier adjustment = token := by
        simpa [tokens] using first
      simp [Token.startsRestriction] at starts
  | _ => rfl

theorem tokens_ne_nil (clause : Clause) : clause.tokens ≠ [] := by
  cases clause with
  | condition restriction => cases restriction <;> simp [tokens, conditionTokens]
  | _ => simp [tokens]

theorem head?_listTokens {clauses : List Clause} {token : Token}
    (first : token ∈ (listTokens clauses).head?) :
    ∃ clause ∈ clauses.head?, token ∈ clause.tokens.head? := by
  cases clauses with
  | nil => simp [listTokens] at first
  | cons clause rest =>
      refine ⟨clause, rfl, ?_⟩
      rwa [listTokens, List.head?_append_of_ne_nil _ (tokens_ne_nil clause)]
        at first

mutual

theorem tokens_isChain : ∀ clause : Clause,
    (∀ sequence ∈ clause.innerSequences, Parted sequence) →
      clause.tokens.IsChain Token.Follows
  | condition restriction, _ => by
      cases restriction <;>
        simp [tokens, conditionTokens, Token.Follows,
          Token.startsRestriction, Token.precedesRestriction]
  | nested inner, parted => by
      have inside := listTokens_isChain inner parted
      rw [tokens, List.isChain_cons, List.isChain_append]
      refine ⟨?_, inside, by simp, ?_⟩
      · intro token _ _
        rfl
      · rintro token - last first
        obtain rfl : Token.closing = last := by simpa using first
        simp [Token.Follows, Token.startsRestriction]
  | negated inner, parted => by
      have inside := listTokens_isChain inner parted
      rw [tokens, List.isChain_cons, List.isChain_append]
      refine ⟨?_, inside, by simp, ?_⟩
      · intro token _ _
        rfl
      · rintro token - last first
        obtain rfl : Token.closing = last := by simpa using first
        simp [Token.Follows, Token.startsRestriction]
  | connective word, _ => by simp [tokens]
  | modifier adjustment, _ => by simp [tokens]

/-- If restrictions stand at the start or right after connectives, at every
depth, then so do the tokens that begin them. -/
theorem listTokens_isChain : ∀ clauses : List Clause,
    (∀ sequence ∈ sequences clauses, Parted sequence) →
      (listTokens clauses).IsChain Token.Follows
  | [], _ => by simp [listTokens]
  | clause :: rest, parted => by
      have outer : Parted (clause :: rest) := parted _ (by simp [sequences])
      have inside := tokens_isChain clause fun sequence member =>
        parted sequence (by simp [sequences, listInnerSequences, member])
      have others := listTokens_isChain rest fun sequence member => by
        rcases List.mem_cons.mp member with rfl | member
        · exact outer.tail
        · exact parted sequence
            (by simp [sequences, listInnerSequences, member])
      rw [listTokens, List.isChain_append]
      refine ⟨inside, others, ?_⟩
      intro earlier last later first starts
      obtain ⟨next, nextFirst, tokenFirst⟩ := head?_listTokens first
      have role := (List.isChain_cons.mp outer).1 next nextFirst
        (head?_tokens tokenFirst starts)
      cases clause with
      | connective word =>
          obtain rfl : Token.connective word = earlier := by
            simpa [tokens] using last
          rfl
      | _ => simp [role?] at role

end

def Clean : Clause → Prop
  | condition restriction => restriction.Clean
  | modifier adjustment => adjustment.Clean
  | _ => True

/-- At every depth, the clauses are clean and modifiers are added only where a
connective is wanted. -/
structure Readable (clauses : List Clause) : Prop where
  clean : ∀ sequence ∈ sequences clauses, ∀ clause ∈ sequence, clause.Clean
  late : ∀ sequence ∈ sequences clauses, ModifiersLate sequence

theorem legible_of_mem_conditionTokens {restriction : Condition}
    (clean : restriction.Clean) :
    ∀ token ∈ conditionTokens restriction, token.Legible := by
  cases restriction <;>
    simpa [conditionTokens, Token.Legible, Condition.plain, Condition.Clean,
      Bound.plain] using clean

mutual

theorem legible_of_mem_tokens : ∀ clause : Clause, clause.Clean →
    (∀ sequence ∈ clause.innerSequences,
      ∀ other ∈ sequence, other.Clean) →
    ∀ token ∈ clause.tokens, token.Legible
  | condition restriction, clean, _ => legible_of_mem_conditionTokens clean
  | nested inner, _, cleanInside => by
      have inside := legible_of_mem_listTokens inner cleanInside
      intro token member
      simp only [tokens, List.mem_cons, List.mem_append, List.not_mem_nil,
        or_false] at member
      rcases member with rfl | member | rfl
      · trivial
      · exact inside token member
      · trivial
  | negated inner, _, cleanInside => by
      have inside := legible_of_mem_listTokens inner cleanInside
      intro token member
      simp only [tokens, List.mem_cons, List.mem_append, List.not_mem_nil,
        or_false] at member
      rcases member with rfl | member | rfl
      · trivial
      · exact inside token member
      · trivial
  | connective word, _, _ => by simp [tokens, Token.Legible]
  | modifier adjustment, clean, _ => by
      intro token member
      obtain rfl : token = .modifier adjustment := by
        simpa [tokens] using member
      exact clean

theorem legible_of_mem_listTokens : ∀ clauses : List Clause,
    (∀ sequence ∈ sequences clauses, ∀ clause ∈ sequence, clause.Clean) →
    ∀ token ∈ listTokens clauses, token.Legible
  | [], _ => by simp [listTokens]
  | clause :: rest, clean => by
      have first := legible_of_mem_tokens clause
        (clean (clause :: rest) (by simp [sequences]) clause (by simp))
        fun sequence member =>
          clean sequence (by simp [sequences, listInnerSequences, member])
      have others := legible_of_mem_listTokens rest fun sequence member => by
        rcases List.mem_cons.mp member with isRest | member
        · intro other inside
          rw [isRest] at inside
          exact clean (clause :: rest) (by simp [sequences]) other
            (by simp [inside])
        · exact clean sequence
            (by simp [sequences, listInnerSequences, member])
      intro token member
      rcases List.mem_append.mp member with member | member
      · exact first token member
      · exact others token member

end

theorem characters_plainCondition (restriction : Condition) :
    (plainCondition restriction).characters = restriction.characters := by
  rw [← flatMap_conditionTokens]
  cases restriction with
  | different field value =>
      simp [plainCondition, conditionTokens, characters, listCharacters,
        Token.characters]
  | _ => simp [plainCondition, conditionTokens, characters, Token.characters]

mutual

theorem characters_plain : ∀ clause : Clause,
    clause.plain.characters = clause.characters
  | condition restriction => by
      rw [plain, characters_plainCondition, characters]
  | nested inner => by
      rw [plain, characters, listCharacters_plain inner, characters]
  | negated inner => by
      rw [plain, characters, listCharacters_plain inner, characters]
  | connective word => rfl
  | modifier adjustment => rfl

theorem listCharacters_plain : ∀ clauses : List Clause,
    listCharacters (listPlain clauses) = listCharacters clauses
  | [] => rfl
  | clause :: rest => by
      rw [listPlain, listCharacters, characters_plain clause,
        listCharacters_plain rest, listCharacters]

end

theorem Fits.parted {stage : Stage} {clauses : List Clause}
    (fits : Fits stage clauses) (readable : Readable clauses) :
    ∀ sequence ∈ sequences clauses, Parted sequence :=
  fun sequence member => parted_of_modifiersLate (fits.alternating member)
    (readable.late sequence member)

theorem listPlain_eq_of_listCharacters_eq {firstStage secondStage : Stage}
    {first second : List Clause}
    (firstFits : Fits firstStage first)
    (secondFits : Fits secondStage second)
    (firstReadable : Readable first) (secondReadable : Readable second)
    (equal : listCharacters first = listCharacters second) :
    listPlain first = listPlain second := by
  apply listPlain_eq_of_listTokens_eq
  apply Token.eq_of_flatMap_characters_eq
  · exact legible_of_mem_listTokens first firstReadable.clean
  · exact legible_of_mem_listTokens second secondReadable.clean
  · exact listTokens_isChain first (firstFits.parted firstReadable)
  · exact listTokens_isChain second (secondFits.parted secondReadable)
  · rw [flatMap_listTokens, flatMap_listTokens, equal]

/-- Two readable queries have one text exactly if they have one plain form. -/
theorem listText_eq_iff_listPlain_eq (first second : List Call)
    {firstDraft secondDraft : Draft .wantsConnective}
    (firstWritten : AnyDraft.ofCalls? first = some ⟨_, firstDraft⟩)
    (secondWritten : AnyDraft.ofCalls? second = some ⟨_, secondDraft⟩)
    (firstReadable : Readable firstDraft.clauses)
    (secondReadable : Readable secondDraft.clauses) :
    listText firstDraft.clauses = listText secondDraft.clauses ↔
      listPlain firstDraft.clauses = listPlain secondDraft.clauses := by
  have fits {calls : List Call} {draft : Draft .wantsConnective}
      (written : AnyDraft.ofCalls? calls = some ⟨_, draft⟩) :
      Fits .wantsConnective draft.clauses := by
    have parts := (AnyDraft.ofCalls?_eq_some_iff calls _).mp written
    have clausesEq : draft.clauses = Call.clauses calls := parts.clauses
    rw [clausesEq]
    exact parts.fits
  constructor
  · intro equal
    have charactersEqual := congrArg String.toList equal
    simp only [listText, String.toList_ofList] at charactersEqual
    exact listPlain_eq_of_listCharacters_eq (fits firstWritten)
      (fits secondWritten) firstReadable secondReadable charactersEqual
  · intro equal
    rw [listText, listText, ← listCharacters_plain firstDraft.clauses, equal,
      listCharacters_plain]

/-- A number that is not the value of a field, and the negation of the text
that it is written as. -/
theorem listPlain_eq_of_different_and_negated :
    listPlain [condition (.different "Size" (.number ⟨15, 1⟩)),
        modifier (.top 5)] =
      listPlain [negated [condition (.equal "Size" (.text "1.5"))],
        modifier (.top 5)] := by
  have late (clause : Clause)
      (isRestriction : clause.role? = some .restriction) :
      ModifiersLate [clause, .modifier (.top 5)] := by
    intro before adjustment after split
    have position : roles before = [] ++ [Role.restriction] := by
      rcases before with _ | ⟨first, _ | ⟨second, others⟩⟩
      · simp at split
        simp [split.1, role?] at isRestriction
      · simp at split
        simp [roles, ← split.1, isRestriction]
      · simp at split
    rw [position, Stage.append_mem_language_iff]
    exact ⟨rfl, by simp [Role.before]⟩
  have firstReadable : Readable [condition (.different "Size" (.number ⟨15, 1⟩)),
      modifier (.top 5)] := by
    refine ⟨?_, ?_⟩
    · simp [sequences, listInnerSequences, innerSequences, Clean,
        Condition.Clean, Modifier.Clean]
      decide
    · simpa [sequences, listInnerSequences, innerSequences] using late _ rfl
  have secondReadable :
      Readable [negated [condition (.equal "Size" (.text "1.5"))],
        modifier (.top 5)] := by
    refine ⟨?_, ?_⟩
    · simp [sequences, listInnerSequences, innerSequences, Clean,
        Condition.Clean, Modifier.Clean]
      decide
    · simp [sequences, listInnerSequences, innerSequences]
      refine ⟨late _ rfl, ?_⟩
      intro before adjustment after split
      simp [List.cons_eq_append_iff] at split
  exact (listText_eq_iff_listPlain_eq
    [.condition (.different "Size" (.number ⟨15, 1⟩)), .modify (.top 5)]
    [.negate [.condition (.equal "Size" (.text "1.5"))], .modify (.top 5)]
    rfl rfl firstReadable secondReadable).mp (by decide)

end Clause

end ContentSearch
