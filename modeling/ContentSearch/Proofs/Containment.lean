import ContentSearch.Picker
import ContentSearch.Proofs.Quotation
import ContentSearch.Proofs.Surroundings

/-!
# Literals inside their quotes

Literals and paths are the parts of a query that come from its users.  They
stand between quotes, and only colons are escaped.  This file says when a
reader that stops at the first quote without a backslash before it recovers
such a part, wherever it stands in a query.

If it recovers all of them, then what stands outside the quotes is the text of
the query with its literals and paths emptied.  So these parts add nothing to
the query and take nothing away from it.
-/

namespace ContentSearch

/-- The place of a literal in a condition. -/
inductive LiteralPlace where
  | equal (field : String)
  | different (field : String)
  | lowerEnd (field : String) (inclusive : Bool) (upper : Bound)
  | upperEnd (field : String) (lower : Bound) (inclusive : Bool)
  | above (field : String) (inclusive : Bool)
  | below (field : String) (inclusive : Bool)

namespace LiteralPlace

/-- The condition with a literal at the place. -/
def fill : LiteralPlace → Literal → Condition
  | equal field, value => .equal field value
  | different field, value => .different field value
  | lowerEnd field inclusive upper, value =>
      .range field ⟨value, inclusive⟩ upper
  | upperEnd field lower inclusive, value =>
      .range field lower ⟨value, inclusive⟩
  | above field inclusive, value => .above field ⟨value, inclusive⟩
  | below field inclusive, value => .below field ⟨value, inclusive⟩

theorem exists_characters_fill_eq (place : LiteralPlace) :
    ∃ before after, ∀ value, (place.fill value).characters =
      before ++ value.quoted ++ after := by
  unfold Condition.characters
  cases place with
  | equal field =>
      refine ⟨field.toList ++ [':'], [], ?_⟩
      intro value
      simp only [fill, List.append_assoc, List.singleton_append,
        List.append_nil]
  | different field =>
      refine ⟨"NOT(".toList ++ field.toList ++ [':'], [')'], ?_⟩
      intro value
      simp only [fill, List.append_assoc, List.cons_append, List.nil_append]
  | lowerEnd field inclusive upper =>
      refine ⟨field.toList ++ [':', if inclusive then '[' else '\x7b'],
        " TO ".toList ++ upper.value.quoted ++
          [if upper.inclusive then ']' else '\x7d'], ?_⟩
      intro value
      simp only [fill, List.append_assoc, List.cons_append, List.nil_append]
  | upperEnd field lower inclusive =>
      refine ⟨field.toList ++ ':' :: (if lower.inclusive then '[' else '\x7b')
        :: lower.value.quoted ++ " TO ".toList,
        [if inclusive then ']' else '\x7d'], ?_⟩
      intro value
      simp only [fill, List.append_assoc, List.cons_append]
  | above field inclusive =>
      refine ⟨field.toList ++ ':' :: '>' :: (if inclusive then ['='] else []),
        [], ?_⟩
      intro value
      simp only [fill, Bound.equalitySign, List.append_assoc, List.cons_append,
        List.append_nil]
  | below field inclusive =>
      refine ⟨field.toList ++ ':' :: '<' :: (if inclusive then ['='] else []),
        [], ?_⟩
      intro value
      simp only [fill, Bound.equalitySign, List.append_assoc, List.cons_append,
        List.append_nil]

end LiteralPlace

def Bound.emptied (bound : Bound) : Bound :=
  ⟨.text "", bound.inclusive⟩

namespace Condition

def emptied : Condition → Condition
  | inFolder _ => inFolder ""
  | inTree _ => inTree ""
  | equal field _ => equal field (.text "")
  | different field _ => different field (.text "")
  | range field lower upper => range field lower.emptied upper.emptied
  | above field bound => above field bound.emptied
  | below field bound => below field bound.emptied
  | other => other

/-- What stands outside of quotes in the condition has no quotes, and its
literals and paths are contained between theirs. -/
def Enclosed : Condition → Prop
  | term text => Text.Unquoted text.toList
  | ofType name => Text.Unquoted name.toList
  | ofExactType name => Text.Unquoted name.toList
  | inFolder path => Text.Contained '"' path.toList
  | inTree path => Text.Contained '"' path.toList
  | equal field value =>
      Text.Unquoted field.toList ∧ Text.Contained '\'' value.characters
  | different field value =>
      Text.Unquoted field.toList ∧ Text.Contained '\'' value.characters
  | range field lower upper =>
      Text.Unquoted field.toList ∧
        Text.Contained '\'' lower.value.characters ∧
          Text.Contained '\'' upper.value.characters
  | above field bound =>
      Text.Unquoted field.toList ∧ Text.Contained '\'' bound.value.characters
  | below field bound =>
      Text.Unquoted field.toList ∧ Text.Contained '\'' bound.value.characters

end Condition

def Modifier.emptied : Modifier → Modifier
  | sort _ descending => sort "" descending
  | other => other

/-- The field of a sorting is contained between its quotes. -/
def Modifier.Enclosed : Modifier → Prop
  | sort field _ => Text.Contained '\'' field.toList
  | _ => True

namespace Clause

mutual

/-- The clause with empty literals and paths, at every depth. -/
def emptied : Clause → Clause
  | condition restriction => condition restriction.emptied
  | nested inner => nested (listEmptied inner)
  | negated inner => negated (listEmptied inner)
  | connective word => connective word
  | modifier adjustment => modifier adjustment.emptied

def listEmptied : List Clause → List Clause
  | [] => []
  | clause :: rest => clause.emptied :: listEmptied rest

end

mutual

/-- The conditions and modifiers of the clause are enclosed, at every depth. -/
def Enclosed : Clause → Prop
  | condition restriction => restriction.Enclosed
  | nested inner => ListEnclosed inner
  | negated inner => ListEnclosed inner
  | connective _ => True
  | modifier adjustment => adjustment.Enclosed

def ListEnclosed : List Clause → Prop
  | [] => True
  | clause :: rest => clause.Enclosed ∧ ListEnclosed rest

end

end Clause

namespace Text

theorem outside_cons {character : Char} (rest : List Char)
    (noQuote : character ≠ '\'' ∧ character ≠ '"') :
    outside (character :: rest) = character :: outside rest := by
  have unquoted : Unquoted [character] := by
    intro other member
    rw [List.mem_singleton.mp member]
    exact noQuote
  exact outside_append_of_unquoted rest unquoted

theorem outside_quoted {value : Literal} (rest : List Char)
    (contained : Contained '\'' value.characters) :
    outside (value.quoted ++ rest) =
      (Literal.text "").quoted ++ outside rest := by
  have escaped := (contained_escapeColons_iff (by decide) (by decide)
    value.characters).mpr contained
  have quotation : value.quoted ++ rest =
      '\'' :: (escapeColons value.characters ++ '\'' :: rest) := by
    simp [Literal.quoted]
  rw [quotation]
  exact outside_quotation (.inl rfl) rest escaped

theorem outside_quotedPath {path : String} (rest : List Char)
    (contained : Contained '"' path.toList) :
    outside (Condition.quotedPath path ++ rest) =
      Condition.quotedPath "" ++ outside rest := by
  have quotation : Condition.quotedPath path ++ rest =
      '"' :: (path.toList ++ '"' :: rest) := by
    simp [Condition.quotedPath]
  rw [quotation]
  exact outside_quotation (.inr rfl) rest contained

end Text

theorem Bound.unquoted_equalitySign (bound : Bound) :
    Text.Unquoted bound.equalitySign := by
  unfold equalitySign
  split <;> decide

theorem Condition.outside_characters_append {restriction : Condition}
    (enclosed : restriction.Enclosed) (rest : List Char) :
    Text.outside (restriction.characters ++ rest) =
      restriction.emptied.characters ++ Text.outside rest := by
  unfold characters
  cases restriction with
  | term text => exact Text.outside_append_of_unquoted rest enclosed
  | ofType name =>
      simp only [emptied, List.append_assoc]
      rw [Text.outside_append_of_unquoted, Text.outside_append_of_unquoted rest enclosed]
      decide
  | ofExactType name =>
      simp only [emptied, List.append_assoc]
      rw [Text.outside_append_of_unquoted, Text.outside_append_of_unquoted rest enclosed]
      decide
  | inFolder path =>
      simp only [emptied, List.append_assoc]
      rw [Text.outside_append_of_unquoted, Text.outside_quotedPath rest enclosed]
      decide
  | inTree path =>
      simp only [emptied, List.append_assoc]
      rw [Text.outside_append_of_unquoted, Text.outside_quotedPath rest enclosed]
      decide
  | equal field value =>
      simp only [emptied, List.append_assoc, List.cons_append]
      rw [Text.outside_append_of_unquoted _ enclosed.1, Text.outside_cons _ (by decide),
        Text.outside_quoted _ enclosed.2]
  | different field value =>
      simp only [emptied, List.append_assoc, List.cons_append]
      rw [Text.outside_append_of_unquoted, Text.outside_append_of_unquoted _ enclosed.1,
        Text.outside_cons _ (by decide), Text.outside_quoted _ enclosed.2,
        List.nil_append, Text.outside_cons _ (by decide), List.nil_append]
      decide
  | range field lower upper =>
      have opening (inclusive : Bool) :
          (if inclusive then '[' else '\x7b') ≠ '\'' ∧
            (if inclusive then '[' else '\x7b') ≠ '"' := by
        cases inclusive <;> decide
      have closing (inclusive : Bool) :
          (if inclusive then ']' else '\x7d') ≠ '\'' ∧
            (if inclusive then ']' else '\x7d') ≠ '"' := by
        cases inclusive <;> decide
      simp only [emptied, Bound.emptied, List.append_assoc, List.cons_append]
      rw [Text.outside_append_of_unquoted _ enclosed.1, Text.outside_cons _ (by decide),
        Text.outside_cons _ (opening _), Text.outside_quoted _ enclosed.2.1,
        Text.outside_append_of_unquoted, Text.outside_quoted _ enclosed.2.2,
        Text.outside_cons _ (closing _), List.nil_append, List.nil_append]
      decide
  | above field bound =>
      simp only [emptied, Bound.emptied, List.append_assoc, List.cons_append]
      rw [Text.outside_append_of_unquoted _ enclosed.1, Text.outside_cons _ (by decide),
        Text.outside_cons _ (by decide),
        Text.outside_append_of_unquoted _ bound.unquoted_equalitySign,
        Text.outside_quoted _ enclosed.2]
      rfl
  | below field bound =>
      simp only [emptied, Bound.emptied, List.append_assoc, List.cons_append]
      rw [Text.outside_append_of_unquoted _ enclosed.1, Text.outside_cons _ (by decide),
        Text.outside_cons _ (by decide),
        Text.outside_append_of_unquoted _ bound.unquoted_equalitySign,
        Text.outside_quoted _ enclosed.2]
      rfl

theorem Modifier.outside_characters_append {modifier : Modifier}
    (enclosed : modifier.Enclosed) (rest : List Char) :
    Text.outside (modifier.characters ++ rest) =
      modifier.emptied.characters ++ Text.outside rest := by
  have count (keyword : List Char) (number : Nat)
      (unquoted : Text.Unquoted keyword) :
      Text.outside (keyword ++ Text.decimal number ++ rest) =
        keyword ++ Text.decimal number ++ Text.outside rest := by
    refine Text.outside_append_of_unquoted rest ?_
    intro character member
    rcases List.mem_append.mp member with member | member
    · exact unquoted character member
    · have isDigit := Text.isDigit_of_mem_decimal member
      refine ⟨?_, ?_⟩
      all_goals
        rintro rfl
        exact absurd isDigit (by decide)
  unfold characters
  cases modifier with
  | sort field descending =>
      have opening : ∃ keyword : List Char,
          (if descending then " .REVERSESORT:'" else " .SORT:'").toList =
              keyword ++ ['\''] ∧
            Text.Unquoted keyword := by
        cases descending with
        | true => exact ⟨" .REVERSESORT:".toList, by decide, by decide⟩
        | false => exact ⟨" .SORT:".toList, by decide, by decide⟩
      obtain ⟨keyword, equal, unquoted⟩ := opening
      simp only [emptied, equal, List.append_assoc, List.cons_append,
        List.nil_append]
      rw [Text.outside_append_of_unquoted _ unquoted,
        Text.outside_quotation (.inl rfl) rest enclosed]
      rfl
  | top number => exact count _ _ (by decide)
  | skip number => exact count _ _ (by decide)

namespace Clause

mutual

theorem outside_characters_append : ∀ (clause : Clause) (rest : List Char),
    clause.Enclosed →
      Text.outside (clause.characters ++ rest) =
        clause.emptied.characters ++ Text.outside rest
  | condition restriction, rest, enclosed => by
      rw [characters, emptied, characters]
      exact restriction.outside_characters_append enclosed rest
  | nested inner, rest, enclosed => by
      simp only [characters, emptied, List.cons_append, List.append_assoc]
      rw [Text.outside_cons _ (by decide),
        outside_listCharacters_append inner _ enclosed, List.nil_append,
        Text.outside_cons _ (by decide), List.nil_append]
  | negated inner, rest, enclosed => by
      simp only [characters, emptied, List.cons_append, List.append_assoc]
      rw [Text.outside_append_of_unquoted _ (by decide),
        outside_listCharacters_append inner _ enclosed, List.nil_append,
        Text.outside_cons _ (by decide), List.nil_append]
  | connective word, rest, enclosed => by
      refine Text.outside_append_of_unquoted rest ?_
      cases word <;> decide
  | modifier adjustment, rest, enclosed => by
      rw [characters, emptied, characters]
      exact adjustment.outside_characters_append enclosed rest

theorem outside_listCharacters_append :
    ∀ (clauses : List Clause) (rest : List Char), ListEnclosed clauses →
      Text.outside (listCharacters clauses ++ rest) =
        listCharacters (listEmptied clauses) ++ Text.outside rest
  | [], rest, _ => rfl
  | clause :: others, rest, enclosed => by
      rw [listCharacters, List.append_assoc,
        outside_characters_append clause _ enclosed.1,
        outside_listCharacters_append others rest enclosed.2, listEmptied,
        listCharacters, List.append_assoc]

end

/-- Outside of its quotes, the text of an enclosed query is that of the query
with empty literals and paths. -/
theorem outside_listCharacters {clauses : List Clause}
    (enclosed : ListEnclosed clauses) :
    Text.outside (listCharacters clauses) =
      listCharacters (listEmptied clauses) := by
  have whole := outside_listCharacters_append clauses [] enclosed
  rwa [List.append_nil, Text.outside, List.append_nil] at whole

end Clause

namespace Picker

theorem exists_restrict_clauses_eq
    (choices : Option (Draft .wantsConnective)) :
    ∃ added, ∀ draft : Draft .wantsConnective,
      (restrict draft choices).clauses = draft.clauses ++ added := by
  cases choices with
  | none => exact ⟨[], fun draft => (List.append_nil _).symm⟩
  | some inner =>
      refine ⟨[.connective .and, .nested inner.clauses], ?_⟩
      intro draft
      simp [restrict, Draft.nest, Draft.connect]

/-- The searched text is a literal of the query that a picker writes, and
nothing else in the query depends on it. -/
theorem exists_write_clauses_eq (types roots : List String)
    (top skip : UInt64) (draft : Draft .wantsRestriction) :
    ∃ surrounding : Surrounding, ∀ term : String,
      (write ⟨term, types, roots, top, skip⟩ draft).clauses =
        surrounding.fill [.condition ((LiteralPlace.equal fullTextField).fill
          (.text ("*" ++ term ++ "*")))] := by
  obtain ⟨places, placesEq⟩ :=
    exists_restrict_clauses_eq (alternatives? roots .inTree)
  obtain ⟨kinds, kindsEq⟩ :=
    exists_restrict_clauses_eq (alternatives? types .ofType)
  refine ⟨.here draft.clauses (places ++ kinds ++
    [.modifier (.top top), .modifier (.skip skip)]), ?_⟩
  intro term
  simp only [write, Draft.modify, Draft.clauses_append, kindsEq, placesEq,
    Draft.condition, searched, Surrounding.fill, LiteralPlace.fill,
    List.append_assoc, List.cons_append, List.nil_append]

/-- Between its stars a searched text may end with a backslash. -/
theorem contained_starred_iff (term : String) :
    Text.Contained '\'' (Literal.text ("*" ++ term ++ "*")).characters ↔
      Text.MarksEscaped '\'' '\'' term.toList := by
  have starred : (Literal.text ("*" ++ term ++ "*")).characters =
      '*' :: (term.toList ++ ['*']) := by
    simp [Literal.characters]
  have marks : Text.MarksEscaped '\'' '\'' ('*' :: (term.toList ++ ['*'])) ↔
      Text.MarksEscaped '\'' '\'' term.toList := by
    unfold Text.MarksEscaped
    rw [List.isChain_cons_cons, ← List.cons_append, List.isChain_append]
    cases term.toList with
    | nil => simp
    | cons first others => simp [List.isChain_cons_cons]
  rw [starred]
  constructor
  · intro contained
    exact marks.mp contained.escaped
  · intro escaped
    refine ⟨marks.mpr escaped, ?_⟩
    rw [← List.cons_append, List.getLast?_concat]
    decide

end Picker

theorem Text.readToMark_escapeColons_iff (raw rest : List Char) :
    readToMark '\'' '\'' (escapeColons raw ++ '\'' :: rest) =
        some (escapeColons raw, rest) ↔
      Contained '\'' raw := by
  rw [readToMark_eq_some_iff_contained (by decide),
    contained_escapeColons_iff (by decide) (by decide)]

/-- Wherever a literal or a path stands in a query, the text before its opening
quote and after its closing quote does not depend on it.  A reader that stops
at the first quote without a backslash before it recovers it exactly if it is
contained, which all literals are that are not texts.  If everything between
quotes is contained and there are no other quotes, then the rest of the text is
that of the query with empty literals and paths. -/
theorem quotations_recovered_iff_contained :
    (∀ surrounding : Surrounding,
      (∀ place : LiteralPlace, ∃ before after, ∀ value : Literal,
        Clause.listCharacters
              (surrounding.fill [.condition (place.fill value)]) =
            before ++ '\'' ::
              (escapeColons value.characters ++ '\'' :: after) ∧
          (Text.readToMark '\'' '\''
              (escapeColons value.characters ++ '\'' :: after) =
                some (escapeColons value.characters, after) ↔
            Text.Contained '\'' value.characters)) ∧
      ∀ content : String → Condition,
        content = .inFolder ∨ content = .inTree →
          ∃ before after, ∀ path : String,
            Clause.listCharacters
                  (surrounding.fill [.condition (content path)]) =
                before ++ '"' :: (path.toList ++ '"' :: after) ∧
              (Text.readToMark '"' '"' (path.toList ++ '"' :: after) =
                  some (path.toList, after) ↔
                Text.Contained '"' path.toList)) ∧
    (∀ clauses, ∀ sequence ∈ Clause.sequences clauses,
      ∀ before restriction after,
        sequence = before ++ .condition restriction :: after →
          ∃ surrounding : Surrounding,
            surrounding.fill [.condition restriction] = clauses) ∧
    (∀ value : Literal, (∀ text, value ≠ .text text) →
      Text.Contained '\'' value.characters) ∧
    (∀ types roots top skip, ∀ draft : Draft .wantsRestriction,
      ∃ surrounding : Surrounding, ∀ term,
        (Picker.write ⟨term, types, roots, top, skip⟩ draft).clauses =
            surrounding.fill
              [.condition ((LiteralPlace.equal Picker.fullTextField).fill
                (.text ("*" ++ term ++ "*")))] ∧
          (Text.Contained '\'' (Literal.text ("*" ++ term ++ "*")).characters ↔
            Text.MarksEscaped '\'' '\'' term.toList)) ∧
    ∀ clauses, Clause.ListEnclosed clauses →
      Text.outside (Clause.listCharacters clauses) =
        Clause.listCharacters (Clause.listEmptied clauses) := by
  have single (restriction : Condition) :
      Clause.listCharacters [.condition restriction] =
        restriction.characters := by
    simp only [Clause.listCharacters, Clause.characters, List.append_nil]
  refine ⟨?_, ?_, ?_, ?_, ?_⟩
  · intro surrounding
    obtain ⟨left, right, around⟩ := surrounding.exists_listCharacters_fill_eq
    constructor
    · intro place
      obtain ⟨before, after, inside⟩ := place.exists_characters_fill_eq
      refine ⟨left ++ before, after ++ right, ?_⟩
      intro value
      refine ⟨?_, Text.readToMark_escapeColons_iff _ _⟩
      rw [around, single, inside]
      simp [Literal.quoted]
    · intro content isContent
      obtain ⟨keyword, inside⟩ : ∃ keyword, ∀ path,
          (content path).characters =
            keyword ++ Condition.quotedPath path := by
        rcases isContent with rfl | rfl
        · exact ⟨"InFolder:".toList, fun path => rfl⟩
        · exact ⟨"InTree:".toList, fun path => rfl⟩
      refine ⟨left ++ keyword, right, ?_⟩
      intro path
      refine ⟨?_, Text.readToMark_eq_some_iff_contained (by decide) _ _⟩
      rw [around, single, inside]
      simp [Condition.quotedPath]
  · intro clauses sequence member before restriction after parts
    exact Surrounding.exists_fill_eq clauses sequence member before
      [.condition restriction] after (by simp [parts])
  · intro value noText
    exact Literal.contained_of_forall_ne_text (.inl rfl) noText
  · intro types roots top skip draft
    obtain ⟨surrounding, written⟩ :=
      Picker.exists_write_clauses_eq types roots top skip draft
    exact ⟨surrounding, fun term =>
      ⟨written term, Picker.contained_starred_iff term⟩⟩
  · intro clauses enclosed
    exact Clause.outside_listCharacters enclosed

/-- In a nested query whose inner quotes all have backslashes before them, the
reader of a name recovers it, and the text outside of the quotes is that of the
query with empty literals and paths. -/
theorem outside_quotations_of_nested_query :
    ∃ clauses : List Clause,
      Clause.listText clauses =
        "InFolder:\"/Root/IT\" AND (Name:'O\\'Brien\\: x' OR NOT(Open:<='true'))" ∧
      (∃ before after,
        Clause.listCharacters clauses =
          before ++ '\'' :: ("O\\'Brien\\: x".toList ++ '\'' :: after) ∧
        Text.readToMark '\'' '\'' ("O\\'Brien\\: x".toList ++ '\'' :: after) =
          some ("O\\'Brien\\: x".toList, after)) ∧
      Text.outside (Clause.listCharacters clauses) =
        "InFolder:\"\" AND (Name:'' OR NOT(Open:<=''))".toList := by
  obtain ⟨recovered, placed, contained, -, outside⟩ :=
    quotations_recovered_iff_contained
  let name : Literal := .text "O\\'Brien: x"
  let inner : List Clause := [.condition (.equal "Name" name),
    .connective .or, .negated [.condition (.below "Open" ⟨.truth true, true⟩)]]
  let clauses : List Clause :=
    [.condition (.inFolder "/Root/IT"), .connective .and, .nested inner]
  have pathContained : Text.Contained '"' "/Root/IT".toList := by decide
  have nameContained : Text.Contained '\'' name.characters := by decide
  have truthContained : Text.Contained '\'' (Literal.truth true).characters :=
    contained (.truth true) nofun
  have enclosed : Clause.ListEnclosed clauses :=
    ⟨pathContained, trivial, ⟨⟨by decide, nameContained⟩, trivial,
      ⟨⟨by decide, truthContained⟩, trivial⟩, trivial⟩, trivial⟩
  refine ⟨clauses, rfl, ?_, ?_⟩
  · have isInner : inner ∈ Clause.sequences clauses := .tail _ (.head _)
    obtain ⟨surrounding, filled⟩ := placed clauses inner isInner [] _ _ rfl
    obtain ⟨before, after, parts⟩ := (recovered surrounding).1 (.equal "Name")
    obtain ⟨written, read⟩ := parts name
    have place : (LiteralPlace.equal "Name").fill name = .equal "Name" name := rfl
    rw [place, filled] at written
    exact ⟨before, after, written, read.mpr nameContained⟩
  · rw [outside clauses enclosed]
    rfl

/-- A path with a quote in it ends at that quote for its reader, and so does a
name with an apostrophe.  What follows the quote reads like a clause. -/
theorem path_adds_clause :
    (¬ ∀ (path : String) (after : List Char),
      Text.readToMark '"' '"' (path.toList ++ '"' :: after) =
        some (path.toList, after)) ∧
    (¬ ∀ (value : Literal) (after : List Char),
      Text.readToMark '\'' '\''
          (escapeColons value.characters ++ '\'' :: after) =
        some (escapeColons value.characters, after)) ∧
    ¬ ∀ path calls first second,
      AnyDraft.ofCalls? [.condition (.inFolder path)] = some first →
      AnyDraft.ofCalls? calls = some second →
      Clause.ListEnclosed second.clauses →
      Clause.listText first.clauses = Clause.listText second.clauses →
        first.clauses.length = second.clauses.length := by
  refine ⟨?_, ?_, ?_⟩
  · intro recovered
    exact absurd (recovered "a\" OR InTree:\"b" []) (by decide)
  · intro recovered
    exact absurd (recovered (.text "O'Brien") []) (by decide)
  · intro sameLength
    have injected : AnyDraft.ofCalls? [.condition
        (.inFolder "a\" OR InTree:\"b")] = some _ := rfl
    have written : AnyDraft.ofCalls? [.condition (.inFolder "a"),
        .connect .or, .condition (.inTree "b")] = some _ := rfl
    have enclosed : Clause.ListEnclosed [.condition (.inFolder "a"),
        .connective .or, .condition (.inTree "b")] := by
      have folder : Text.Contained '"' "a".toList := by decide
      have tree : Text.Contained '"' "b".toList := by decide
      exact ⟨folder, trivial, tree, trivial⟩
    have lengths := sameLength _ _ _ _ injected written enclosed rfl
    exact absurd lengths (by decide)

end ContentSearch
