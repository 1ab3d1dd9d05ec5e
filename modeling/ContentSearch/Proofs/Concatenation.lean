import ContentSearch.Clause.Text
import ContentSearch.Proofs.Writing

/-!
# The text of a query, call by call

The text of a query can be told without a draft.  Every call has a text of its
own, which for a nested query is the text of its calls in parentheses, and the
texts of successive calls stand one after the other.  This file states that
reading of the calls and shows that a draft, whose clauses are collected first
and written out afterwards, has the same text: neither the stage nor the
clauses around it have a part in what a call adds.
-/

namespace ContentSearch

namespace Call

/-- A literal in single quotes, with a backslash before each of its colons. -/
def quote (literal : Literal) : String :=
  "'" ++ String.ofList (escapeColons literal.characters) ++ "'"

def conditionText : Condition → String
  | .term text => text
  | .ofType name => "TypeIs:" ++ name
  | .ofExactType name => "Type:" ++ name
  | .inFolder path => "InFolder:\"" ++ path ++ "\""
  | .inTree path => "InTree:\"" ++ path ++ "\""
  | .equal field value => field ++ ":" ++ quote value
  | .different field value => "NOT(" ++ field ++ ":" ++ quote value ++ ")"
  | .range field lower upper =>
      field ++ (if lower.inclusive then ":[" else ":\x7b") ++
        quote lower.value ++ " TO " ++ quote upper.value ++
          (if upper.inclusive then "]" else "\x7d")
  | .above field bound =>
      field ++ (if bound.inclusive then ":>=" else ":>") ++ quote bound.value
  | .below field bound =>
      field ++ (if bound.inclusive then ":<=" else ":<") ++ quote bound.value

def modifierText : Modifier → String
  | .sort field false => " .SORT:'" ++ field ++ "'"
  | .sort field true => " .REVERSESORT:'" ++ field ++ "'"
  | .top count => " .TOP:" ++ toString count.toNat
  | .skip count => " .SKIP:" ++ toString count.toNat

mutual

/-- The text of a call, which no other call has a part in. -/
def text : Call → String
  | condition restriction => conditionText restriction
  | nest inner => "(" ++ joinedText inner ++ ")"
  | negate inner => "NOT(" ++ joinedText inner ++ ")"
  | connect .and => " AND "
  | connect .or => " OR "
  | modify adjustment => modifierText adjustment

def joinedText : List Call → String
  | [] => ""
  | call :: rest => call.text ++ joinedText rest

end

theorem joinedText_eq_join (calls : List Call) :
    joinedText calls = String.join (calls.map text) := by
  induction calls with
  | nil => rfl
  | cons call rest inductionHypothesis =>
      rw [joinedText, inductionHypothesis, List.map_cons, String.join_cons]

@[simp]
theorem toList_quote (literal : Literal) :
    (quote literal).toList = literal.quoted := by
  simp [quote, Literal.quoted]

theorem toList_conditionText (restriction : Condition) :
    (conditionText restriction).toList = restriction.characters := by
  unfold conditionText Condition.characters
  cases restriction with
  | range field lower upper =>
      obtain ⟨lowerValue, lowerInclusive⟩ := lower
      obtain ⟨upperValue, upperInclusive⟩ := upper
      cases lowerInclusive <;> cases upperInclusive <;> simp
  | above field bound =>
      obtain ⟨value, inclusive⟩ := bound
      cases inclusive <;> simp [Bound.equalitySign]
  | below field bound =>
      obtain ⟨value, inclusive⟩ := bound
      cases inclusive <;> simp [Bound.equalitySign]
  | inFolder path => simp [Condition.quotedPath]
  | inTree path => simp [Condition.quotedPath]
  | _ => simp

theorem toList_modifierText (modifier : Modifier) :
    (modifierText modifier).toList = modifier.characters := by
  unfold Modifier.characters
  cases modifier with
  | sort field descending =>
      cases descending with
      | false =>
          change (" .SORT:'" ++ field ++ "'").toList = _
          simp
      | true =>
          change (" .REVERSESORT:'" ++ field ++ "'").toList = _
          simp
  | top count =>
      change (" .TOP:" ++ toString count.toNat).toList = _
      simp [Text.decimal]
  | skip count =>
      change (" .SKIP:" ++ toString count.toNat).toList = _
      simp [Text.decimal]

mutual

/-- What a call is told to write is what its clause writes. -/
theorem toList_text : ∀ call : Call,
    call.text.toList = call.clause.characters
  | condition restriction => by
      rw [text, clause, Clause.characters, toList_conditionText]
  | nest inner => by
      simp [text, clause, Clause.characters, toList_joinedText inner]
  | negate inner => by
      simp [text, clause, Clause.characters, toList_joinedText inner]
  | connect .and => rfl
  | connect .or => rfl
  | modify adjustment => by
      rw [text, clause, Clause.characters, toList_modifierText]

theorem toList_joinedText : ∀ calls : List Call,
    (joinedText calls).toList = Clause.listCharacters (clauses calls)
  | [] => rfl
  | call :: rest => by
      rw [joinedText, clauses, Clause.listCharacters, String.toList_append,
        toList_text call, toList_joinedText rest]

end

theorem text_clause (call : Call) : call.clause.text = call.text := by
  rw [← String.toList_inj, Clause.toList_text, toList_text]

theorem listText_clauses (calls : List Call) :
    Clause.listText (clauses calls) = joinedText calls := by
  rw [← String.toList_inj, Clause.toList_listText, toList_joinedText]

theorem clause_eq_modifier_iff (call : Call) (modifier : Modifier) :
    call.clause = .modifier modifier ↔ call = modify modifier := by
  cases call <;> simp [clause]

end Call

namespace AnyDraft

/-- A call adds its clause at the end of a draft and its text at the end of the
text. -/
theorem text_of_perform {call : Call} {current next : AnyDraft}
    (performed : call.perform current = some next) :
    next.clauses = current.clauses ++ [call.clause] ∧
      Clause.listText next.clauses =
        Clause.listText current.clauses ++ call.text := by
  have addition := (perform_eq_some_iff_extends call current next).mp performed
  refine ⟨addition.clauses, ?_⟩
  rw [← String.toList_inj, addition.clauses]
  simp [Clause.listCharacters, Call.toList_text]

/-- The text of a written draft is made of the texts of its calls, one after
the other, and its clauses are theirs, one for each.  Each call adds one clause
and its text at the end, whatever was written before; that of a nested query is
the text of the query by itself, in parentheses. -/
theorem text_eq_join_texts_of_calls :
    (∀ calls draft, ofCalls? calls = some draft →
      Clause.listText draft.clauses = String.join (calls.map Call.text) ∧
      draft.clauses.map Clause.text = calls.map Call.text ∧
      ∀ (position : Nat) (modifier : Modifier),
        draft.clauses[position]? = some (.modifier modifier) ↔
          calls[position]? = some (.modify modifier)) ∧
    (∀ call current next, Call.perform call current = some next →
      ∃ clause, next.clauses = current.clauses ++ [clause] ∧
        clause.text = call.text ∧
        Clause.listText next.clauses =
          Clause.listText current.clauses ++ call.text) ∧
    (∀ inner nested, ofCalls? inner = some nested →
      (Call.nest inner).text =
          "(" ++ Clause.listText nested.clauses ++ ")" ∧
        (Call.negate inner).text =
          "NOT(" ++ Clause.listText nested.clauses ++ ")") ∧
    ∀ field lower upper,
      (Call.condition (.between field lower upper)).text =
        field ++ ":\x7b" ++ Call.quote lower ++ " TO " ++ Call.quote upper ++
          "\x7d" := by
  refine ⟨?_, ?_, ?_, ?_⟩
  · intro calls draft accepted
    have written := (ofCalls?_eq_some_iff calls draft).mp accepted
    refine ⟨?_, ?_, ?_⟩
    · rw [written.clauses, Call.listText_clauses, Call.joinedText_eq_join]
    · rw [written.clauses, Call.clauses_eq_map, List.map_map]
      exact List.map_congr_left fun call _ => Call.text_clause call
    · intro position modifier
      simp [written.clauses, Call.clauses_eq_map, List.getElem?_map,
        Option.map_eq_some_iff, Call.clause_eq_modifier_iff]
  · intro call current next performed
    obtain ⟨clauses, text⟩ := text_of_perform performed
    exact ⟨call.clause, clauses, Call.text_clause call, text⟩
  · intro inner nested accepted
    have written := (ofCalls?_eq_some_iff inner nested).mp accepted
    rw [written.clauses, Call.listText_clauses]
    exact ⟨by rw [Call.text], by rw [Call.text]⟩
  · intro field lower upper
    rfl

/-- A range and a type in a negated group, then the order of the results. -/
theorem text_of_negated_group :
    ∃ nested draft next,
      ofCalls? [.condition (.between "Index" (.ofInt 1) (.ofInt 5)),
        .connect .or, .nest [.condition (.ofType "Task")]] = some nested ∧
      ofCalls? [.condition (.equal "Url" (.text "a:b")), .connect .and,
        .negate [.condition (.between "Index" (.ofInt 1) (.ofInt 5)),
          .connect .or, .nest [.condition (.ofType "Task")]]] = some draft ∧
      Call.perform (.modify (.sort "Name" true)) draft = some next ∧
      (Call.negate [.condition (.between "Index" (.ofInt 1) (.ofInt 5)),
        .connect .or, .nest [.condition (.ofType "Task")]]).text =
          "NOT(" ++ Clause.listText nested.clauses ++ ")" ∧
      Clause.listText next.clauses =
        "Url:'a\\:b' AND NOT(Index:\x7b'1' TO '5'\x7d OR (TypeIs:Task)) " ++
          ".REVERSESORT:'Name'" := by
  obtain ⟨ofAccepted, ofStep, ofNested, -⟩ := text_eq_join_texts_of_calls
  obtain ⟨nested, acceptedNested⟩ : ∃ nested, ofCalls?
      [.condition (.between "Index" (.ofInt 1) (.ofInt 5)), .connect .or,
        .nest [.condition (.ofType "Task")]] = some nested := ⟨_, rfl⟩
  obtain ⟨draft, accepted⟩ : ∃ draft, ofCalls?
      [.condition (.equal "Url" (.text "a:b")), .connect .and,
        .negate [.condition (.between "Index" (.ofInt 1) (.ofInt 5)),
          .connect .or, .nest [.condition (.ofType "Task")]]] = some draft :=
    ⟨_, rfl⟩
  obtain ⟨_, -, -, sorted⟩ := ofStep (.modify (.sort "Name" true)) draft _ rfl
  refine ⟨_, _, _, acceptedNested, accepted, rfl,
    (ofNested _ _ acceptedNested).2, ?_⟩
  rw [sorted, (ofAccepted _ _ accepted).1]
  decide

end AnyDraft

end ContentSearch
