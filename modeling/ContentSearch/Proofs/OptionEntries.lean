import ContentSearch.Options
import Mathlib.Data.List.Nodup

/-!
# Entries of response options

The options of a request are known by their entries: no two entries have the
same name, setting an entry replaces the one with its name and leaves all
others, and options with the same entries are the same.
-/

namespace ContentSearch

namespace Options

/-- The names of all options in the order in which they are sent. -/
def names : List String :=
  ["$select", "$expand", "$orderby", "$top", "$skip", "$filter", "$format",
    "$inlinecount", "metadata", "scenario"]

theorem names_nodup : names.Nodup := by
  decide

theorem filterMap_names_sublist {α : Type} {entry : α → Entry} {name : String}
    (named : ∀ value, (entry value).name = name) (value : Option α)
    {others : List (Option Entry)} {otherNames : List String}
    (sublist : List.Sublist ((others.filterMap id).map Entry.name) otherNames) :
    List.Sublist (((value.map entry :: others).filterMap id).map Entry.name)
      (name :: otherNames) := by
  cases value with
  | none => exact sublist.cons name
  | some value =>
      rw [← named value]
      exact sublist.cons_cons _

/-- The entries stand in the order in which all options are sent. -/
theorem entries_names_sublist (options : Options) :
    List.Sublist (options.entries.map Entry.name) names := by
  unfold entries names
  iterate 10
    refine filterMap_names_sublist ?_ _ ?_
    · intro value
      rfl
  exact List.Sublist.refl []

theorem entries_names_nodup (options : Options) :
    (options.entries.map Entry.name).Nodup :=
  options.entries_names_sublist.nodup names_nodup

theorem eq_of_name_eq {options : Options} {left right : Entry}
    (isLeft : left ∈ options.entries) (isRight : right ∈ options.entries)
    (same : left.name = right.name) : left = right :=
  List.inj_on_of_nodup_map options.entries_names_nodup isLeft isRight same

/-- An option is set to a value exactly if setting it changes nothing. -/
theorem mem_entries_iff (options : Options) (entry : Entry) :
    entry ∈ options.entries ↔ options.set entry = options := by
  obtain ⟨_, _, _, _, _, _, _, _, _, _⟩ := options
  cases entry <;> simp [entries, set, eq_comm]

theorem mem_entries_set_iff (options : Options) (entry added : Entry) :
    entry ∈ (options.set added).entries ↔
      entry = added ∨ entry.name ≠ added.name ∧ entry ∈ options.entries := by
  obtain ⟨_, _, _, _, _, _, _, _, _, _⟩ := options
  cases added <;> cases entry <;>
    simp [mem_entries_iff, set, Entry.name, eq_comm]

theorem entries_empty : empty.entries = [] :=
  rfl

theorem eq_of_mem_entries_iff {left right : Options}
    (same : ∀ entry, entry ∈ left.entries ↔ entry ∈ right.entries) :
    left = right := by
  simp only [mem_entries_iff] at same
  obtain ⟨_, _, _, _, _, _, _, _, _, _⟩ := left
  obtain ⟨_, _, _, _, _, _, _, _, _, _⟩ := right
  congr 1 <;> apply Option.ext <;> intro value
  · simpa [set, eq_comm] using same (.select value)
  · simpa [set, eq_comm] using same (.expand value)
  · simpa [set, eq_comm] using same (.orderBy value)
  · simpa [set, eq_comm] using same (.top value)
  · simpa [set, eq_comm] using same (.skip value)
  · simpa [set, eq_comm] using same (.filter value)
  · simpa [set, eq_comm] using same (.format value)
  · simpa [set, eq_comm] using same (.inlineCount value)
  · simpa [set, eq_comm] using same (.metadata value)
  · simpa [set, eq_comm] using same (.scenario value)

end Options

end ContentSearch
