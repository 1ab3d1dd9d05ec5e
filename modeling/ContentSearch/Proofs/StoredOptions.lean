import ContentSearch.Options.Reading
import ContentSearch.Proofs.OptionEntries
import ContentSearch.Proofs.Records
import ContentSearch.Proofs.SelectionNames

/-!
# Stored response options

Options that were stored in a JSON record are read by visiting the fields of
the record one after the other.  Each visit finds the entry with the name of
the field and sets it again, so that after all visits every entry is set as it
was stored.  Only a selection may change on the way, because it is stored as a
text; it comes back exactly if it is in normal form.
-/

namespace ContentSearch

namespace Options

/-- The members of the record in which the options are stored. -/
def members (options : Options) : List (String × Json) :=
  options.entries.map fun entry => (entry.name, entry.json)

namespace Entry

/-- The field in which an entry is stored. -/
def field : Entry → RecordField Options
  | select _ => selectField
  | expand _ => expandField
  | orderBy _ => orderByField
  | top _ => topField
  | skip _ => skipField
  | filter _ => filterField
  | format _ => formatField
  | inlineCount _ => inlineCountField
  | metadata _ => metadataField
  | scenario _ => scenarioField

/-- The entry that is read from a stored one. -/
def reread : Entry → Entry
  | select selection => select (.ofText selection.text)
  | entry => entry

@[simp]
theorem name_field (entry : Entry) : entry.field.name = entry.name := by
  cases entry <;> rfl

@[simp]
theorem name_reread (entry : Entry) : entry.reread.name = entry.name := by
  cases entry <;> rfl

theorem json_ne_null (entry : Entry) : entry.json ≠ .null := by
  cases entry <;> simp [json, Json.ofTexts]

theorem field_mem_byName (entry : Entry) :
    entry.field ∈ recordFormat.byName := by
  cases entry <;> simp [field, recordFormat]

end Entry

theorem readTexts_ofTexts (texts : List String) :
    Json.readTexts (.ofTexts texts) = .ok texts := by
  change (texts.map Json.text).mapM Json.readText = .ok texts
  induction texts with
  | nil => rfl
  | cons text rest inductionHypothesis =>
      rw [List.map_cons, List.mapM_cons, inductionHypothesis]
      rfl

theorem field_assign {α : Type} {name : String}
    {read : Json → Except ReadError α} {store : Option α → Options → Options}
    {json : Json} {value : α} (notNull : json ≠ .null)
    (readsBack : read json = .ok value) (record : Options) :
    (field name read store).assign json record =
      .ok (store (some value) record) := by
  have found : Json.readOptional read json = .ok (some value) := by
    unfold Json.readOptional
    split
    · contradiction
    · rw [readsBack]
      rfl
  change (Json.readOptional read json).map _ = _
  rw [found]
  rfl

/-- Reading a stored entry sets it. -/
theorem Entry.assign_json (entry : Entry) (record : Options) :
    entry.field.assign entry.json record = .ok (record.set entry.reread) := by
  have notNull := entry.json_ne_null
  cases entry with
  | select selection =>
      apply field_assign notNull
      rfl
  | expand fields => exact field_assign notNull (readTexts_ofTexts _) record
  | orderBy clauses => exact field_assign notNull (readTexts_ofTexts _) record
  | top count =>
      exact field_assign notNull (Json.readNatural_eq_ok_iff.mpr rfl) record
  | skip count =>
      exact field_assign notNull (Json.readNatural_eq_ok_iff.mpr rfl) record
  | filter condition =>
      apply field_assign notNull
      rfl
  | format name =>
      apply field_assign notNull
      rfl
  | inlineCount choice =>
      apply field_assign notNull
      cases choice <;> rfl
  | metadata choice =>
      apply field_assign notNull
      cases choice <;> rfl
  | scenario name =>
      apply field_assign notNull
      rfl

theorem lookup_members_of_mem {options : Options} {entry : Entry}
    (isEntry : entry ∈ options.entries) :
    options.members.lookup entry.name = some entry.json := by
  have isMember : (entry.name, entry.json) ∈ options.members :=
    List.mem_map.mpr ⟨entry, isEntry, rfl⟩
  obtain ⟨json, found⟩ := Option.isSome_iff_exists.mp
    (List.lookup_isSome_iff.mpr ⟨_, isMember, beq_self_eq_true _⟩)
  obtain ⟨before, after, split, -⟩ := List.lookup_eq_some_iff.mp found
  have isFound : (entry.name, json) ∈ options.members := by
    rw [split]
    simp
  obtain ⟨other, isOther, same⟩ := List.mem_map.mp isFound
  obtain ⟨sameName, sameJson⟩ := Prod.mk.inj same
  have sameEntry := eq_of_name_eq isOther isEntry sameName
  rw [found, ← sameJson, sameEntry]

theorem lookup_members_eq_none {options : Options} {name : String}
    (absent : ∀ entry ∈ options.entries, entry.name ≠ name) :
    options.members.lookup name = none := by
  rw [List.lookup_eq_none_iff]
  intro pair isMember
  obtain ⟨entry, isEntry, rfl⟩ := List.mem_map.mp isMember
  simpa using (absent entry isEntry).symm

theorem visit_of_mem {options : Options} {entry : Entry}
    (isEntry : entry ∈ options.entries) (record : Options) :
    RecordFormat.visit options.members record entry.field =
      .ok (record.set entry.reread) := by
  rw [RecordFormat.visit, entry.name_field, lookup_members_of_mem isEntry]
  exact entry.assign_json record

theorem visit_eq_self {options : Options} {field : RecordField Options}
    (absent : ∀ entry ∈ options.entries, entry.name ≠ field.name)
    (record : Options) :
    RecordFormat.visit options.members record field = .ok record := by
  rw [RecordFormat.visit, lookup_members_eq_none absent]

theorem eq_field_of_name_eq {field : RecordField Options} {entry : Entry}
    (known : field ∈ recordFormat.byName) (same : entry.name = field.name) :
    field = entry.field := by
  have distinct : (recordFormat.byName.map RecordField.name).Nodup := by decide
  apply List.inj_on_of_nodup_map distinct known entry.field_mem_byName
  rw [entry.name_field, same]

/-- The record has what was read from the entries with the given names. -/
def Holds (options : Options) (visited : List String) (record : Options) :
    Prop :=
  ∀ entry, entry ∈ record.entries ↔
    ∃ stored ∈ options.entries, stored.name ∈ visited ∧ stored.reread = entry

theorem holds_nil (options : Options) : options.Holds [] empty := by
  intro entry
  simp [entries_empty]

theorem Holds.set {options record : Options} {visited : List String}
    (holds : options.Holds visited record) {entry : Entry}
    (isEntry : entry ∈ options.entries) :
    options.Holds (visited ++ [entry.name]) (record.set entry.reread) := by
  intro other
  rw [mem_entries_set_iff, entry.name_reread, holds other]
  constructor
  · rintro (rfl | ⟨-, stored, isStored, wasVisited, rfl⟩)
    · exact ⟨entry, isEntry, by simp, rfl⟩
    · exact ⟨stored, isStored, by simp [wasVisited], rfl⟩
  · rintro ⟨stored, isStored, wasVisited, rfl⟩
    by_cases same : stored.name = entry.name
    · left
      rw [eq_of_name_eq isStored isEntry same]
    · right
      refine ⟨?_, stored, isStored, ?_, rfl⟩
      · rw [stored.name_reread]
        exact same
      · simpa [same] using wasVisited

theorem Holds.append_absent {options record : Options} {visited : List String}
    (holds : options.Holds visited record) {name : String}
    (absent : ∀ entry ∈ options.entries, entry.name ≠ name) :
    options.Holds (visited ++ [name]) record := by
  intro other
  rw [holds other]
  constructor
  · rintro ⟨stored, isStored, wasVisited, rfl⟩
    exact ⟨stored, isStored, by simp [wasVisited], rfl⟩
  · rintro ⟨stored, isStored, wasVisited, rfl⟩
    refine ⟨stored, isStored, ?_, rfl⟩
    simpa [absent stored isStored] using wasVisited

/-- A visit succeeds and reads the entry with the name of the field. -/
theorem Holds.visit {options record : Options} {visited : List String}
    (holds : options.Holds visited record) {field : RecordField Options}
    (known : field ∈ recordFormat.byName) :
    ∃ next, RecordFormat.visit options.members record field = .ok next ∧
      options.Holds (visited ++ [field.name]) next := by
  by_cases present : ∃ entry ∈ options.entries, entry.name = field.name
  · obtain ⟨entry, isEntry, same⟩ := present
    have isField := eq_field_of_name_eq known same
    subst field
    refine ⟨_, visit_of_mem isEntry record, ?_⟩
    rw [entry.name_field]
    exact holds.set isEntry
  · have absent : ∀ entry ∈ options.entries, entry.name ≠ field.name := by
      simpa using present
    exact ⟨record, visit_eq_self absent record, holds.append_absent absent⟩

/-- Visits one after the other succeed and read the entries with the names of
the fields. -/
theorem Holds.visits {options record : Options} {visited : List String}
    (holds : options.Holds visited record)
    {fields : List (RecordField Options)}
    (known : ∀ field ∈ fields, field ∈ recordFormat.byName) :
    ∃ last, fields.foldlM (RecordFormat.visit options.members) record =
        .ok last ∧
      options.Holds (visited ++ fields.map RecordField.name) last := by
  induction fields generalizing visited record with
  | nil =>
      refine ⟨record, rfl, ?_⟩
      simpa using holds
  | cons field rest inductionHypothesis =>
      obtain ⟨next, step, holdsNext⟩ := holds.visit (known field (by simp))
      have knownRest : ∀ later ∈ rest, later ∈ recordFormat.byName := by
        intro later member
        exact known later (by simp [member])
      obtain ⟨last, run, holdsLast⟩ := inductionHypothesis holdsNext knownRest
      refine ⟨last, ?_, ?_⟩
      · rw [List.foldlM_cons, step]
        exact run
      · simpa using holdsLast

def reread (options : Options) : Options :=
  { options with
    select := options.select.map fun selection => .ofText selection.text }

theorem entries_reread (options : Options) :
    options.reread.entries = options.entries.map Entry.reread := by
  unfold entries
  rw [List.map_filterMap]
  change _ = List.filterMap (id ∘ Option.map Entry.reread) _
  rw [← List.filterMap_map]
  simp only [List.map_cons, List.map_nil, Option.map_map, reread]
  rfl

theorem read_json (options : Options) :
    read options.json = .ok options.reread := by
  obtain ⟨last, run, holds⟩ := options.holds_nil.visits fun field known => known
  have same : last = options.reread := by
    apply eq_of_mem_entries_iff
    intro entry
    rw [holds entry, entries_reread, List.mem_map]
    have visited (stored : Entry) :
        stored.name ∈ [] ++ recordFormat.byName.map RecordField.name := by
      rw [← stored.name_field]
      exact List.mem_map_of_mem stored.field_mem_byName
    simp only [visited, true_and]
  rw [← same]
  exact run

theorem reread_eq_self_iff (options : Options) :
    options.reread = options ↔
      ∀ selection ∈ options.select, selection.Normal := by
  have selects : options.reread = options ↔
      options.select.map (fun selection => .ofText selection.text) =
        options.select := by
    constructor
    · intro same
      exact congrArg Options.select same
    · intro same
      rw [reread, same]
  rw [selects]
  cases options.select with
  | none => simp
  | some selection => simp [Selection.ofText_text_eq_iff_normal]

/-- Stored options are always read back, and all but the selection are as they
were.  The selection is as it was exactly if it is open or in normal form. -/
theorem read_json_eq_self_iff_normal (options : Options) :
    ∃ again, read options.json = .ok again ∧
      (again = options ↔ ∀ selection ∈ options.select, selection.Normal) ∧
      { again with select := options.select } = options :=
  ⟨options.reread, options.read_json, options.reread_eq_self_iff, rfl⟩

end Options

end ContentSearch
