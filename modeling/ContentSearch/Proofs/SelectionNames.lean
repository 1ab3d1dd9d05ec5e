import ContentSearch.Proofs.Cutting
import ContentSearch.Proofs.Trimming
import ContentSearch.Selection

/-!
# Names in a written selection

A selection is read by cutting a text at the commas and trimming the pieces.
What is read this way is a list of names: none is empty, has a comma or has a
blank at an end.  A selection of such names is read back from its text, unless
its only name is a star, which stands for all fields.  Nothing else is read
back.
-/

namespace ContentSearch

namespace Selection

/-- A name that can be read from a text with commas between the names. -/
structure IsName (name : String) : Prop where
  nonempty : name ≠ ""
  noComma : ',' ∉ name.toList
  trimmed : Text.Trimmed Text.isBlank name.toList

/-- A selection that can be read from a text. -/
def Normal : Selection → Prop
  | everything => True
  | fields names => (∀ name ∈ names, IsName name) ∧ names ≠ ["*"]

theorem IsName.toList_ne_nil {name : String} (isName : IsName name) :
    name.toList ≠ [] := by
  intro empty
  exact isName.nonempty (String.toList_eq_nil_iff.mp empty)

theorem isName_of_mem_namesOf {characters : List Char} {name : String}
    (member : name ∈ namesOf characters) : IsName name := by
  obtain ⟨trimmed, kept, rfl⟩ := List.mem_map.mp member
  obtain ⟨isTrimmed, nonempty⟩ := List.mem_filter.mp kept
  obtain ⟨piece, isPiece, rfl⟩ := List.mem_map.mp isTrimmed
  constructor
  · intro empty
    have nothing : Text.trim piece = [] := String.ofList_eq_empty_iff.mp empty
    simp [nothing] at nonempty
  · have wanted : Text.isBlank ',' = false := by decide
    rw [String.toList_ofList, Text.trim, Text.mem_trimWhere_iff wanted]
    exact Text.not_mem_of_mem_splitOn isPiece
  · rw [String.toList_ofList]
    exact Text.trimmed_trimWhere Text.isBlank piece

theorem splitOn_intercalate {names : List String} (nonempty : names ≠ [])
    (noComma : ∀ name ∈ names, ',' ∉ name.toList) :
    (",".intercalate names).toList.splitOn ',' = names.map String.toList := by
  have separate : ∀ piece ∈ names.map String.toList, ',' ∉ piece := by
    intro piece member
    obtain ⟨name, isName, rfl⟩ := List.mem_map.mp member
    exact noComma name isName
  have some : names.map String.toList ≠ [] := by simpa using nonempty
  rw [String.toList_intercalate]
  exact List.splitOn_intercalate ',' separate some

theorem namesOf_intercalate {names : List String}
    (areNames : ∀ name ∈ names, IsName name) :
    namesOf (",".intercalate names).toList = names := by
  by_cases nonempty : names = []
  · subst names
    rfl
  · have noComma : ∀ name ∈ names, ',' ∉ name.toList := by
      intro name member
      exact (areNames name member).noComma
    have trimmed : ∀ name ∈ names,
        Text.trim name.toList = name.toList := by
      intro name member
      exact (Text.trimWhere_eq_self_iff _).mpr (areNames name member).trimmed
    have kept : ∀ name ∈ names, (!name.toList.isEmpty) = true := by
      intro name member
      simpa using (areNames name member).nonempty
    have trims : (names.map String.toList).map Text.trim =
        names.map String.toList := by
      rw [List.map_map]
      exact List.map_congr_left trimmed
    have keeps : (names.map String.toList).filter (fun name =>
        !name.isEmpty) = names.map String.toList := by
      rw [List.filter_eq_self, List.forall_mem_map]
      exact kept
    rw [namesOf, splitOn_intercalate nonempty noComma, trims, keeps,
      List.map_map]
    simp

theorem trim_intercalate {names : List String}
    (areNames : ∀ name ∈ names, IsName name) :
    Text.trim (",".intercalate names).toList =
      (",".intercalate names).toList := by
  have parts : ∀ part ∈ names.map String.toList,
      part ≠ [] ∧ Text.Trimmed Text.isBlank part := by
    intro part member
    obtain ⟨name, isName, rfl⟩ := List.mem_map.mp member
    exact ⟨(areNames name isName).toList_ne_nil, (areNames name isName).trimmed⟩
  apply (Text.trimWhere_eq_self_iff _).mpr
  rw [String.toList_intercalate]
  exact Text.Trimmed.intercalate parts _

/-- A text of names trims to a star exactly if a star is the only name. -/
theorem trim_intercalate_eq_star_iff {names : List String}
    (areNames : ∀ name ∈ names, IsName name) :
    Text.trim (",".intercalate names).toList = ['*'] ↔ names = ["*"] := by
  constructor
  · intro star
    rw [trim_intercalate areNames] at star
    have same := namesOf_intercalate areNames
    rw [star] at same
    exact same.symm
  · rintro rfl
    rfl

theorem ofText_text_eq_iff_normal (selection : Selection) :
    ofText selection.text = selection ↔ selection.Normal := by
  cases selection with
  | everything =>
      have star : ofText (text everything) = everything := by decide
      exact iff_of_true star trivial
  | fields names =>
      change (if Text.trim (",".intercalate names).toList = ['*'] then
          everything
        else
          fields (namesOf (",".intercalate names).toList)) = fields names ↔ _
      constructor
      · intro same
        split_ifs at same with star
        have readBack : namesOf (",".intercalate names).toList = names :=
          Selection.fields.inj same
        constructor
        · intro name member
          rw [← readBack] at member
          exact isName_of_mem_namesOf member
        · rintro rfl
          exact star rfl
      · rintro ⟨areNames, notStar⟩
        have notAll := (trim_intercalate_eq_star_iff areNames).not.mpr notStar
        rw [if_neg notAll, namesOf_intercalate areNames]

example : ofText (text (fields [" Id", "Name,Path", ""])) =
    fields ["Id", "Name", "Path"] := by
  decide

end Selection

end ContentSearch
