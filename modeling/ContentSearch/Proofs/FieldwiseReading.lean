import ContentSearch.Proofs.RecordPlaces

/-!
# Fieldwise reading of settings and options

Settings and options are read from an object field by field.  This file lists
the places of both records with the names and the grammars of their members.
The two records treat `null` in opposite ways: no place of settings may have
it, and in each place of options it stands for an option that is left open.
-/

namespace ContentSearch

namespace Settings

/-- The places of settings, in the order of their names. -/
def places : List (RecordPlace Settings) :=
  [⟨"default_inlinecount", _, .choice InlineCount.choices, inlineCount⟩,
    ⟨"default_metadata", _, .choice Metadata.choices, metadata⟩,
    ⟨"default_select", _, .listOf .text, fields⟩,
    ⟨"default_top", _, .natural, top⟩,
    ⟨"root_path", _, .text, rootPath⟩,
    ⟨"service_token", _, .text, serviceToken⟩]

theorem format_hasPlaces : format.HasPlaces places where
  filled := by
    refine .cons (.of Grammar.inlineCount_isReadBy (fun _ _ => rfl) ?_) <|
      .cons (.of Grammar.metadata_isReadBy (fun _ _ => rfl) ?_) <|
      .cons (.of Grammar.listOf_text_isReadBy (fun _ _ => rfl) ?_) <|
      .cons (.of Grammar.natural_isReadBy (fun _ _ => rfl) ?_) <|
      .cons (.of Grammar.text_isReadBy (fun _ _ => rfl) ?_) <|
      .cons (.of Grammar.text_isReadBy (fun _ _ => rfl) ?_) .nil
    all_goals simp [places]
  sorted := by decide
  determined {left right} same := by
    obtain ⟨_, _, _, _, _, _⟩ := left
    obtain ⟨_, _, _, _, _, _⟩ := right
    simp only [places, List.forall_mem_cons] at same
    obtain ⟨rfl, rfl, rfl, rfl, rfl, rfl, -⟩ := same
    rfl

end Settings

namespace Options

/-- The places of options, in the order of their names. -/
def places : List (RecordPlace Options) :=
  [⟨"$expand", _, .optional (.listOf .text), expand⟩,
    ⟨"$filter", _, .optional .text, filter⟩,
    ⟨"$format", _, .optional .text, format⟩,
    ⟨"$inlinecount", _, .optional (.choice InlineCount.choices), inlineCount⟩,
    ⟨"$orderby", _, .optional (.listOf .text), orderBy⟩,
    ⟨"$select", _, .optional (.map Selection.ofText .text), select⟩,
    ⟨"$skip", _, .optional .natural, skip⟩,
    ⟨"$top", _, .optional .natural, top⟩,
    ⟨"metadata", _, .optional (.choice Metadata.choices), metadata⟩,
    ⟨"scenario", _, .optional .text, scenario⟩]

theorem recordFormat_hasPlaces : recordFormat.HasPlaces places where
  filled := by
    have selection := (Grammar.text_isReadBy.map Selection.ofText).optional
    have choice := Grammar.inlineCount_isReadBy.optional
    have texts := Grammar.listOf_text_isReadBy.optional
    have natural := Grammar.natural_isReadBy.optional
    have text := Grammar.text_isReadBy.optional
    refine .cons (.of texts (fun _ _ => rfl) ?_) <|
      .cons (.of text (fun _ _ => rfl) ?_) <|
      .cons (.of text (fun _ _ => rfl) ?_) <|
      .cons (.of choice (fun _ _ => rfl) ?_) <|
      .cons (.of texts (fun _ _ => rfl) ?_) <|
      .cons (.of selection (fun _ _ => rfl) ?_) <|
      .cons (.of natural (fun _ _ => rfl) ?_) <|
      .cons (.of natural (fun _ _ => rfl) ?_) <|
      .cons (.of Grammar.metadata_isReadBy.optional (fun _ _ => rfl) ?_) <|
      .cons (.of text (fun _ _ => rfl) ?_) .nil
    all_goals simp [places]
  sorted := by decide
  determined {left right} same := by
    obtain ⟨_, _, _, _, _, _, _, _, _, _⟩ := left
    obtain ⟨_, _, _, _, _, _, _, _, _, _⟩ := right
    simp only [places, List.forall_mem_cons] at same
    obtain ⟨rfl, rfl, rfl, rfl, rfl, rfl, rfl, rfl, rfl, rfl, -⟩ := same
    rfl

end Options

/-- Settings and options are read from an object field by field.  No place of
settings may have `null`, and in each place of options `null` stands for an
option that is left open. -/
theorem settings_and_options_readFieldwise :
    ReadsFieldwise Settings.read Settings.standard Settings.places ∧
      ReadsFieldwise Options.read Options.empty Options.places ∧
      (∀ place ∈ Settings.places, ∀ value,
        ¬ place.grammar.Accepts .null value) ∧
      ∀ place ∈ Options.places, ∀ value,
        place.grammar.Accepts .null value ↔ value = place.value .empty := by
  refine ⟨?_, ?_, ?_, ?_⟩
  · exact Settings.format_hasPlaces.readsFieldwise
  · exact Options.recordFormat_hasPlaces.readsFieldwise
  · simp [Settings.places, Grammar.choice, Grammar.listOf, Grammar.natural,
      Grammar.text]
  · simp [Options.places, Grammar.optional, Options.empty]

/-- Of three refused members and one with another name, the fault is that of
the member whose name comes first, wherever it stands in the object. -/
theorem fault_of_settings_with_refused_members :
    Settings.read (.object
      [("service_token", .null), ("$top", .null), ("root_path", .list []),
        ("default_top", .integer (-1)), ("default_metadata", .text "full")]) =
      .error (.outOfRange (-1)) := by
  rw [settings_and_options_readFieldwise.1.error_iff]
  refine ⟨⟨"default_top", _, .natural, Settings.top⟩, ?_, ?_, ?_⟩
  · simp [Settings.places]
  · exact ⟨.integer (-1), rfl, .outOfRange (by decide)⟩
  · simp only [Settings.places, List.forall_mem_cons]
    refine ⟨?_, ?_, ?_, ?_, ?_, ?_, by simp⟩
    · rintro - json ⟨⟩
    · rintro - json ⟨⟩
      exact ⟨.full, "full", by decide, .inl rfl⟩
    · rintro - json ⟨⟩
    all_goals
      intro before
      exact absurd before (by decide)

end ContentSearch
