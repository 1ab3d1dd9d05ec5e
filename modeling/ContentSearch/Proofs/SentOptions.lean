import ContentSearch.Options.Description
import ContentSearch.Proofs.StoredOptions

/-!
# Sent and stored options

Options leave a program in two forms: as pairs of texts in an address and as a
record in a file of settings.  This file states what the fields of the record
are, one by one, and shows that the two forms are about the same options.  Both
have the options that are set, each once and in the same order, and the text of
a pair follows from the value in the record.
-/

namespace ContentSearch

/-- The text by which a value is sent: a text is sent as it is, a whole number
by its decimal digits, and a list of texts with commas between them. -/
inductive Json.SentAs : Json → String → Prop where
  | text (value : String) : SentAs (.text value) value
  | integer (value : Int) : SentAs (.integer value) (toString value)
  | texts (values : List String) :
      SentAs (.ofTexts values) (",".intercalate values)

/-- A choice is stored as it is named in reports, in lower case. -/
theorem Metadata.toLower_description (choice : Metadata) :
    choice.description.toLower = choice.name := by
  cases choice <;> decide +kernel

theorem InlineCount.toLower_description (choice : InlineCount) :
    choice.description.toLower = choice.name := by
  cases choice <;> decide +kernel

namespace Options

/-- The fields of the record, each with its value if the option is set. -/
def record (options : Options) : List (String × Option Json) :=
  [("$select", options.select.map fun selection => .text selection.text),
    ("$expand", options.expand.map .ofTexts),
    ("$orderby", options.orderBy.map .ofTexts),
    ("$top", options.top.map fun count => .integer count.toNat),
    ("$skip", options.skip.map fun count => .integer count.toNat),
    ("$filter", options.filter.map .text),
    ("$format", options.format.map .text),
    ("$inlinecount",
      options.inlineCount.map fun choice => .text choice.description.toLower),
    ("metadata",
      options.metadata.map fun choice => .text choice.description.toLower),
    ("scenario", options.scenario.map .text)]

/-- The fields that have a value. -/
def setFields (options : Options) : List (String × Json) :=
  options.record.filterMap fun field => field.2.map (field.1, ·)

theorem members_eq_setFields (options : Options) :
    options.members = options.setFields := by
  have inlineCount : (fun choice : InlineCount =>
      Json.text choice.description.toLower) = fun choice => .text choice.name :=
    funext fun choice => congrArg Json.text choice.toLower_description
  have metadata : (fun choice : Metadata =>
      Json.text choice.description.toLower) = fun choice => .text choice.name :=
    funext fun choice => congrArg Json.text choice.toLower_description
  unfold members entries setFields
  rw [List.map_filterMap]
  change List.filterMap
      (id ∘ Option.map fun entry : Entry => (entry.name, entry.json)) _ =
    List.filterMap
      (id ∘ fun field : String × Option Json => field.2.map (field.1, ·)) _
  rw [← List.filterMap_map, ← List.filterMap_map, record, inlineCount,
    metadata]
  simp only [List.map_cons, List.map_nil, Option.map_map]
  rfl

theorem map_fst_setFields (options : Options) :
    options.setFields.map Prod.fst =
      (options.record.filter fun field => field.2.isSome).map Prod.fst := by
  unfold setFields
  induction options.record with
  | nil => rfl
  | cons field rest inductionHypothesis =>
      obtain ⟨name, value⟩ := field
      cases value <;> simp [inductionHypothesis]

theorem Entry.sentAs_text (entry : Entry) :
    entry.json.SentAs entry.text := by
  cases entry with
  | select selection => exact .text _
  | expand fields => exact .texts _
  | orderBy clauses => exact .texts _
  | top count => exact .integer count.toNat
  | skip count => exact .integer count.toNat
  | filter condition => exact .text _
  | format name => exact .text _
  | inlineCount choice => exact .text _
  | metadata choice => exact .text _
  | scenario name => exact .text _

/-- The pairs that are sent and the record that is stored have the same names,
which are those of the options that are set, each once and in a fixed order; and
every text that is sent is that of the stored value. -/
theorem pairs_sentAs_fields_of_json (options : Options) :
    options.json = .object options.setFields ∧
      options.record.map Prod.fst =
        ["$select", "$expand", "$orderby", "$top", "$skip", "$filter",
          "$format", "$inlinecount", "metadata", "scenario"] ∧
      options.pairs.map Prod.fst =
        (options.record.filter fun field => field.2.isSome).map Prod.fst ∧
      (options.pairs.map Prod.fst).Nodup ∧
      List.Forall₂ (fun pair field =>
        pair.1 = field.1 ∧ field.2.SentAs pair.2)
          options.pairs options.setFields := by
  have names : options.pairs.map Prod.fst = options.setFields.map Prod.fst := by
    rw [← members_eq_setFields, pairs, members, List.map_map, List.map_map]
    rfl
  refine ⟨?_, rfl, ?_, ?_, ?_⟩
  · rw [← members_eq_setFields]
    rfl
  · rw [names, map_fst_setFields]
  · rw [pairs, List.map_map]
    exact options.entries_names_nodup
  · rw [← members_eq_setFields, pairs, members, List.forall₂_map_left_iff,
      List.forall₂_map_right_iff, List.forall₂_same]
    intro entry isEntry
    exact ⟨rfl, entry.sentAs_text⟩

end Options

end ContentSearch
