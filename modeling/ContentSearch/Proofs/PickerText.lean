import ContentSearch.Proofs.Binding
import ContentSearch.Proofs.Concatenation
import ContentSearch.Proofs.Pickers

/-!
# The text of a picker

A picker adds to the text of a draft the condition on the searched text, the
places in parentheses, the types in parentheses, and the page.  A restriction
without alternatives has no text at all, and one alternative stands in
parentheses like many.

What a picker writes is refused if the draft before it was refused or one of
the places has no path.
-/

namespace ContentSearch

namespace Picker

/-- The text of a restriction: the texts of its alternatives with a word
between each two, all in parentheses. -/
def restrictionText (alternativeText : String → String) : List String → String
  | [] => ""
  | first :: rest =>
      " AND (" ++ " OR ".intercalate ((first :: rest).map alternativeText) ++
        ")"

theorem listCharacters_alternativeClauses (condition : String → Condition)
    (items : List String) :
    Clause.listCharacters (alternativeClauses condition items) =
      " OR ".toList.intercalate
        (items.map fun item => (condition item).characters) := by
  induction items with
  | nil => rfl
  | cons first rest inductionHypothesis =>
      cases rest with
      | nil =>
          simp [alternativeClauses, Clause.listCharacters, Clause.characters]
      | cons second others =>
          have split : alternativeClauses condition (first :: second :: others) =
              .condition (condition first) :: .connective .or ::
                alternativeClauses condition (second :: others) := rfl
          rw [split, Clause.listCharacters, Clause.listCharacters,
            inductionHypothesis, List.map_cons, List.map_cons, List.map_cons,
            List.intercalate_cons_cons, List.append_assoc]
          rfl

theorem listCharacters_restrictionClauses {condition : String → Condition}
    {alternativeText : String → String}
    (written : ∀ item,
      (condition item).characters = (alternativeText item).toList)
    (items : List String) :
    Clause.listCharacters (restrictionClauses condition items) =
      (restrictionText alternativeText items).toList := by
  cases items with
  | nil => rfl
  | cons first rest =>
      have inside := listCharacters_alternativeClauses condition (first :: rest)
      have texts : (first :: rest).map (fun item =>
          (condition item).characters) =
          ((first :: rest).map alternativeText).map String.toList := by
        rw [List.map_map]
        exact List.map_congr_left fun item _ => written item
      rw [texts, ← String.toList_intercalate] at inside
      simp [restrictionClauses, restrictionText, Clause.listCharacters,
        Clause.characters, Connective.word, inside]

/-- The searched text stands between stars, and only its colons are escaped. -/
theorem characters_searched (picker : Picker) :
    picker.searched.characters =
      ("_Text:'*" ++ String.ofList (escapeColons picker.term.toList) ++
        "*'").toList := by
  have literal : (Literal.text ("*" ++ picker.term ++ "*")).characters =
      ['*'] ++ picker.term.toList ++ ['*'] := by
    simp [Literal.characters]
  have star : escapeColons ['*'] = ['*'] := rfl
  have quote : (Call.quote (.text ("*" ++ picker.term ++ "*"))).toList =
      '\'' :: '*' :: escapeColons picker.term.toList ++ ['*', '\''] := by
    rw [Call.toList_quote, Literal.quoted, literal, escapeColons_append,
      escapeColons_append, star]
    simp
  have written := Call.toList_conditionText picker.searched
  change (fullTextField ++ ":" ++ Call.quote _).toList = _ at written
  rw [← written, String.toList_append, quote]
  simp [fullTextField]

theorem mem_restrictionClauses_iff (condition : String → Condition)
    (items : List String) (inner : List Clause) :
    .nested inner ∈ restrictionClauses condition items ↔
      items ≠ [] ∧ inner = alternativeClauses condition items := by
  cases items <;> simp [restrictionClauses]

/-- A picker adds to a draft the text of the search, of the places, of the types
and of the page.  It adds one nested query for the places and one for the types,
each if there are any.  The draft is then refused if it was refused before, with
the same fault, or if one of the places has the empty path. -/
theorem listText_write_and_check_write (picker : Picker)
    (draft : Draft .wantsRestriction) :
    Clause.listText (picker.write draft).clauses =
        Clause.listText draft.clauses ++
          "_Text:'*" ++ String.ofList (escapeColons picker.term.toList) ++
            "*'" ++
          restrictionText (fun root => "InTree:\"" ++ root ++ "\"")
            picker.roots ++
          restrictionText (fun name => "TypeIs:" ++ name) picker.types ++
          " .TOP:" ++ toString picker.top.toNat ++
          " .SKIP:" ++ toString picker.skip.toNat ∧
      (∃ added, (picker.write draft).clauses = draft.clauses ++ added ∧
        ∀ inner, .nested inner ∈ added ↔
          picker.roots ≠ [] ∧
              inner = alternativeClauses .inTree picker.roots ∨
            picker.types ≠ [] ∧
              inner = alternativeClauses .ofType picker.types) ∧
      ((∃ fault, (picker.write draft).check = .error fault) ↔
        (∃ fault, draft.fault = some fault) ∨ "" ∈ picker.roots) ∧
      (picker.write draft).check =
        if "" ∈ picker.roots then
          draft.check.bind fun _ => .error .emptyPath
        else
          draft.check := by
  refine ⟨?_, ?_, ?_, ?_⟩
  · have place (root : String) : (Condition.inTree root).characters =
        ("InTree:\"" ++ root ++ "\"").toList :=
      (Call.toList_conditionText (.inTree root)).symm
    have typeName (name : String) : (Condition.ofType name).characters =
        ("TypeIs:" ++ name).toList :=
      (Call.toList_conditionText (.ofType name)).symm
    have top : (Modifier.top picker.top).characters =
        (" .TOP:" ++ toString picker.top.toNat).toList :=
      (Call.toList_modifierText (.top picker.top)).symm
    have skip : (Modifier.skip picker.skip).characters =
        (" .SKIP:" ++ toString picker.skip.toNat).toList :=
      (Call.toList_modifierText (.skip picker.skip)).symm
    have places := listCharacters_restrictionClauses place picker.roots
    have types := listCharacters_restrictionClauses typeName picker.types
    apply String.toList_inj.mp
    rw [Clause.toList_listText, picker.clauses_write,
      Clause.listCharacters_append, Clause.listCharacters,
      Clause.listCharacters_append, Clause.listCharacters_append,
      places, types]
    simp only [Clause.listCharacters, Clause.characters, top, skip,
      characters_searched, String.toList_append, List.append_assoc,
      Clause.toList_listText, List.append_nil]
  · refine ⟨_, picker.clauses_write draft, ?_⟩
    intro inner
    simp [mem_restrictionClauses_iff]
  · simp only [Draft.check_eq_error_iff, picker.fault_write]
    cases draft.fault with
    | some fault => simp
    | none => simp
  · unfold Draft.check
    rw [picker.fault_write]
    by_cases missing : "" ∈ picker.roots
    · cases draft.fault <;> simp [missing, Except.bind]
    · cases draft.fault <;> simp [missing]

example : Clause.listText (Picker.write
    ⟨"term", ["Task"], ["/Root/a", "/Root/b"], 10, 0⟩ Draft.empty).clauses =
      "_Text:'*term*' AND (InTree:\"/Root/a\" OR InTree:\"/Root/b\")" ++
        " AND (TypeIs:Task) .TOP:10 .SKIP:0" :=
  rfl

end Picker

end ContentSearch
