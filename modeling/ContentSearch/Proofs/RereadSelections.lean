import ContentSearch.Proofs.SelectionNames

/-!
# Selections that are read again

A selection is written out and read again whenever settings are stored.  What
is read from a text by hand is a list of names, and a list of names is read
back as it is, with one exception: the list whose only name is a star is
written as the star that stands for all fields.

A star alone is read as all fields, so the list with only a star comes from a
text in which nothing but commas and blanks stands around a star, with at least
one comma among them.  Such a text asks for one field when it is read for the
first time and for all fields when it is read again.
-/

namespace ContentSearch

namespace Text

theorem filter_map_trim_eq_nil_iff (pieces : List (List Char)) :
    ((pieces.map trim).filter fun piece => !piece.isEmpty) = [] ↔
      (pieces.flatten.filter fun character => !isBlank character) = [] := by
  have blank (piece : List Char) : trim piece = [] ↔
      ∀ character ∈ piece, isBlank character = true := by
    simp [trim, trimWhere_eq_nil_iff]
  simp [List.filter_eq_nil_iff, blank]

/-- The only piece that is not blank has the only character that is not
blank. -/
theorem filter_map_trim_eq_singleton_iff {only : Char}
    (notBlank : isBlank only = false) (pieces : List (List Char)) :
    ((pieces.map trim).filter fun piece => !piece.isEmpty) = [[only]] ↔
      (pieces.flatten.filter fun character => !isBlank character) =
        [only] := by
  induction pieces with
  | nil => simp
  | cons piece rest inductionHypothesis =>
      rw [List.map_cons, List.flatten_cons, List.filter_append]
      by_cases blank : trim piece = []
      · have nothing := (trimWhere_eq_nil_iff piece).mp blank
        rw [nothing, List.nil_append, ← inductionHypothesis]
        simp [blank]
      · have something := (trimWhere_eq_nil_iff piece).not.mp blank
        have single := trimWhere_eq_singleton_iff notBlank piece
        have others := filter_map_trim_eq_nil_iff rest
        rw [List.filter_cons_of_pos (by simpa using blank), List.cons_eq_cons,
          List.append_eq_singleton_iff, others, trim, single]
        simp [something]

end Text

namespace Selection

/-- The characters that can stand anywhere in a name. -/
def nameCharacters (characters : List Char) : List Char :=
  characters.filter fun character =>
    !Text.isBlank character && character != ','

theorem nameCharacters_of_noComma {characters : List Char}
    (noComma : ',' ∉ characters) :
    nameCharacters characters =
      characters.filter fun character => !Text.isBlank character := by
  apply List.filter_congr
  intro character member
  have notComma : character ≠ ',' := ne_of_mem_of_not_mem member noComma
  simp [notComma]

/-- Nothing but commas and blanks stands around a star, and there is a comma
among them. -/
structure StarAmongCommas (raw : String) : Prop where
  alone : nameCharacters raw.toList = ['*']
  comma : ',' ∈ raw.toList

theorem namesOf_eq_star_iff (characters : List Char) :
    namesOf characters = ["*"] ↔ nameCharacters characters = ['*'] := by
  have star : ["*"] = [['*']].map String.ofList := rfl
  have sameLists : Function.Injective (List.map String.ofList) :=
    List.map_injective_iff.mpr fun _ _ => String.ofList_injective
  rw [namesOf, star, sameLists.eq_iff,
    Text.filter_map_trim_eq_singleton_iff (by decide), Text.flatten_splitOn,
    List.filter_filter, nameCharacters]

theorem trim_eq_star_iff (characters : List Char) :
    Text.trim characters = ['*'] ↔
      nameCharacters characters = ['*'] ∧ ',' ∉ characters := by
  have notBlank : Text.isBlank '*' = false := by decide
  rw [Text.trim, Text.trimWhere_eq_singleton_iff notBlank]
  constructor
  · intro alone
    have noComma : ',' ∉ characters := by
      intro comma
      have kept : ',' ∈ characters.filter
          fun character => !Text.isBlank character :=
        List.mem_filter.mpr ⟨comma, by decide⟩
      rw [alone] at kept
      simp at kept
    refine ⟨?_, noComma⟩
    rw [nameCharacters_of_noComma noComma]
    exact alone
  · rintro ⟨alone, noComma⟩
    rw [← nameCharacters_of_noComma noComma]
    exact alone

theorem ofText_eq_fields_star_iff (raw : String) :
    ofText raw = fields ["*"] ↔ StarAmongCommas raw := by
  unfold ofText
  split_ifs with star
  · have noComma := ((trim_eq_star_iff raw.toList).mp star).2
    exact iff_of_false nofun fun among => noComma among.comma
  · rw [fields.injEq, namesOf_eq_star_iff]
    constructor
    · intro alone
      refine ⟨alone, ?_⟩
      by_contra noComma
      exact star ((trim_eq_star_iff raw.toList).mpr ⟨alone, noComma⟩)
    · intro among
      exact among.alone

/-- What is read from a text is in normal form, except for the star. -/
theorem normal_ofText_iff (raw : String) :
    (ofText raw).Normal ↔ ¬ StarAmongCommas raw := by
  rw [← ofText_eq_fields_star_iff]
  cases read : ofText raw with
  | everything => exact iff_of_true trivial nofun
  | fields names =>
      have areNames : ∀ name ∈ names, IsName name := by
        unfold ofText at read
        split_ifs at read
        obtain rfl := fields.inj read
        intro name member
        exact isName_of_mem_namesOf member
      rw [Normal, fields.injEq]
      exact and_iff_right areNames

/-- A selection that was read from a text stays the same when it is written and
read again, unless the text has a star among commas: then a field named by a
star becomes all fields.  Reading once more changes nothing. -/
theorem ofText_text_ofText_eq_iff (raw : String) :
    (ofText (ofText raw).text = ofText raw ↔ ¬ StarAmongCommas raw) ∧
      (StarAmongCommas raw ↔
        ofText raw = fields ["*"] ∧
          ofText (ofText raw).text = everything) ∧
      ofText (ofText (ofText raw).text).text = ofText (ofText raw).text := by
  have stable : ofText (ofText raw).text = ofText raw ↔
      ¬ StarAmongCommas raw := by
    rw [ofText_text_eq_iff_normal, normal_ofText_iff]
  have star : ofText (text (fields ["*"])) = everything := by decide
  refine ⟨stable, ?_, ?_⟩
  · rw [← ofText_eq_fields_star_iff]
    constructor
    · intro read
      rw [read]
      exact ⟨rfl, star⟩
    · exact And.left
  · by_cases among : StarAmongCommas raw
    · rw [(ofText_eq_fields_star_iff raw).mpr among, star]
      decide
    · rw [stable.mpr among, stable.mpr among]

/-- A star with a comma behind it asks for a field of that name, and for all
fields once it was written and read again. -/
theorem ofText_text_ofText_star_comma_ne :
    ¬ ∀ raw, ofText (ofText raw).text = ofText raw := by
  intro stable
  have once : ofText "*," = fields ["*"] := by decide
  have again : ofText (ofText "*,").text = everything := by decide
  rw [stable, once] at again
  cases again

end Selection

end ContentSearch
