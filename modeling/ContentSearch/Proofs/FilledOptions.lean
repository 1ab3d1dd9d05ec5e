import ContentSearch.Options
import ContentSearch.Proofs.MergedSelections

/-!
# Filled options

Filling options from settings leaves none of four options open: the selection,
the metadata, the count and the length of a page.  Values that were set before
are kept, but the selection gets the fields by which an item is known in front.

Options in which the four are set in this way are filled, and filled options are
those that no settings change.  So it is the settings from which options are
filled first that count.
-/

namespace ContentSearch

namespace Options

open Selection (FirstOccurrences extend)

/-- The fields by which an item is known, then those requested fields that are
not among them, each once and by first occurrence. -/
def IdentifyingThen (requested : List String) (selection : Selection) : Prop :=
  ∃ added,
    selection = .fields (["Id", "Path", "Name", "Type"] ++ added) ∧
      (["Id", "Path", "Name", "Type"] ++ added).Nodup ∧
      FirstOccurrences added (requested.filter fun name =>
        name ∉ ["Id", "Path", "Name", "Type"])

theorem merge_identifyingFields (names : List String) :
    Selection.merge [.fields identifyingFields, .fields names] =
      .fields (extend identifyingFields names) := by
  have collected : extend [] identifyingFields = identifyingFields := by
    decide
  rw [Selection.merge, Selection.mergeOnto, collected]
  rfl

theorem identifyingThen_extend (names : List String) :
    IdentifyingThen names (.fields (extend identifyingFields names)) := by
  obtain ⟨added, same, first⟩ :=
    Selection.exists_extend_eq_append identifyingFields names
  refine ⟨added, congrArg Selection.fields same, ?_, first⟩
  refine List.nodup_append.mpr ⟨by decide, first.nodup, ?_⟩
  rintro name isIdentifying _ isAdded rfl
  have isRequested := (first.mem_iff name).mp isAdded
  exact of_decide_eq_true (List.mem_filter.mp isRequested).2 isIdentifying

section

variable {options : Options} {settings : Settings}

theorem select_fill_of_everything
    (requested :
      options.select.getD (.fields settings.fields) = .everything) :
    (options.fill settings).select = some .everything := by
  rw [fill, requested]
  rfl

theorem select_fill_of_fields {names : List String}
    (requested :
      options.select.getD (.fields settings.fields) = .fields names) :
    (options.fill settings).select =
      some (.fields (extend identifyingFields names)) := by
  rw [fill, requested, merge_identifyingFields]

end

theorem select_fill_eq_everything_iff (options : Options)
    (settings : Settings) :
    (options.fill settings).select = some .everything ↔
      options.select = some .everything := by
  have asked : options.select.getD (.fields settings.fields) = .everything ↔
      options.select = some .everything := by
    cases options.select <;> simp
  rw [← asked]
  cases requested : options.select.getD (.fields settings.fields) with
  | everything => simp [select_fill_of_everything requested]
  | fields names => simp [select_fill_of_fields requested]

/-- Filled options select everything if they did before, and otherwise the
identifying fields and the requested ones: those that the options list, even if
they list none, or those of the settings if the selection is open.  Of the other
options, the metadata, the count and the length of a page are taken from the
settings if they are open, and nothing else changes. -/
theorem fill_selects_identifyingThen_and_keeps (options : Options)
    (settings : Settings) :
    ((options.fill settings).select = some .everything ↔
        options.select = some .everything) ∧
      (∀ names, options.select = some (.fields names) →
        ∃ selection, (options.fill settings).select = some selection ∧
          IdentifyingThen names selection) ∧
      (options.select = none →
        ∃ selection, (options.fill settings).select = some selection ∧
          IdentifyingThen settings.fields selection) ∧
      (options.fill settings).metadata =
        options.metadata.or (some settings.metadata) ∧
      (options.fill settings).inlineCount =
        options.inlineCount.or (some settings.inlineCount) ∧
      (options.fill settings).top = options.top.or (some settings.top) ∧
      { options.fill settings with
        select := options.select
        metadata := options.metadata
        inlineCount := options.inlineCount
        top := options.top } = options := by
  refine ⟨options.select_fill_eq_everything_iff settings, ?_, ?_, ?_, ?_, ?_,
    rfl⟩
  · intro names selects
    refine ⟨_, select_fill_of_fields ?_, identifyingThen_extend names⟩
    rw [selects, Option.getD_some]
  · intro isOpen
    refine ⟨_, select_fill_of_fields ?_, identifyingThen_extend _⟩
    rw [isOpen, Option.getD_none]
  · exact Option.or_some.symm
  · exact Option.or_some.symm
  · exact Option.or_some.symm

/-- A selection that repeats fields and has one of the identifying ones, and a
selection that is left to the settings. -/
theorem fill_selects_identifyingThen_of_repeated_fields :
    (∃ selection,
      (fill { empty with select := some (.fields ["Icon", "Name", "Icon"]) }
        .standard).select = some selection ∧
      IdentifyingThen ["Icon", "Name", "Icon"] selection) ∧
    ∃ selection, (fill { empty with top := some 5 } .standard).select =
        some selection ∧
      IdentifyingThen ["DisplayName", "Description", "Icon"] selection := by
  constructor
  · exact (fill_selects_identifyingThen_and_keeps _ .standard).2.1 _ rfl
  · exact (fill_selects_identifyingThen_and_keeps _ .standard).2.2.1 rfl

/-- Options that settings have nothing to add to. -/
structure Filled (options : Options) : Prop where
  select : options.select = some .everything ∨
    ∃ added, options.select = some (.fields (identifyingFields ++ added)) ∧
      (identifyingFields ++ added).Nodup
  metadata : options.metadata ≠ none
  inlineCount : options.inlineCount ≠ none
  top : options.top ≠ none

theorem filled_fill (options : Options) (settings : Settings) :
    (options.fill settings).Filled := by
  refine ⟨?_, nofun, nofun, nofun⟩
  cases requested : options.select.getD (.fields settings.fields) with
  | everything => exact .inl (select_fill_of_everything requested)
  | fields names =>
      obtain ⟨added, same, nodup, -⟩ := identifyingThen_extend names
      refine .inr ⟨added, ?_, nodup⟩
      rw [select_fill_of_fields requested, same]
      rfl

theorem Filled.select_fill {options : Options} (filled : options.Filled)
    (settings : Settings) :
    (options.fill settings).select = options.select := by
  rcases filled.select with isEverything | ⟨added, lists, nodup⟩
  · rw [isEverything, select_fill_eq_everything_iff, isEverything]
  · have requested : options.select.getD (.fields settings.fields) =
        .fields (identifyingFields ++ added) := by
      rw [lists, Option.getD_some]
    have again : extend identifyingFields identifyingFields =
        identifyingFields :=
      Selection.extend_eq_self fun _ member => member
    rw [select_fill_of_fields requested, Selection.extend_append, again,
      Selection.extend_eq_append nodup, lists]

theorem fill_eq_self_iff_filled (options : Options) (settings : Settings) :
    options.fill settings = options ↔ options.Filled := by
  constructor
  · intro same
    rw [← same]
    exact options.filled_fill settings
  · intro filled
    have select := filled.select_fill settings
    have metadata := Option.getD_of_ne_none filled.metadata settings.metadata
    have inlineCount :=
      Option.getD_of_ne_none filled.inlineCount settings.inlineCount
    have top := Option.getD_of_ne_none filled.top settings.top
    calc
      options.fill settings =
          { options with
            select := (options.fill settings).select
            metadata := some (options.metadata.getD settings.metadata)
            inlineCount := some (options.inlineCount.getD settings.inlineCount)
            top := some (options.top.getD settings.top) } := rfl
      _ = options := by rw [select, metadata, inlineCount, top]

/-- Settings do not change options that were filled before, however many of them
there are. -/
theorem foldl_fill_fill_eq (options : Options) (first : Settings) :
    (∀ second, (options.fill first).fill second = options.fill first) ∧
      ∀ later : List Settings,
        later.foldl fill (options.fill first) = options.fill first := by
  have again (second : Settings) :
      (options.fill first).fill second = options.fill first :=
    (fill_eq_self_iff_filled _ second).mpr (options.filled_fill first)
  refine ⟨again, ?_⟩
  intro later
  induction later with
  | nil => rfl
  | cons second rest inductionHypothesis =>
      rw [List.foldl_cons, again, inductionHypothesis]

end Options

end ContentSearch
