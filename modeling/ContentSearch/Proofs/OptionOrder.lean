import ContentSearch.Proofs.OptionEntries
import ContentSearch.Url.Form
import Mathlib.Data.List.Induction

/-!
# Options set in any order

Options are set one by one, and each setting replaces what the option was set to
before.  In the end an option has the value to which it was set last, so only the
order among the settings of one option matters.

Filling the open options from settings does not read or replace an option that
was set, the selection apart.  As long as the selection is not set, filling may
come before, between or after the other settings.
-/

namespace ContentSearch

namespace Options

def setAll (options : Options) (calls : List Entry) : Options :=
  calls.foldl set options

/-- The last call for the option with the given name. -/
def lastNamed? (name : String) (calls : List Entry) : Option Entry :=
  (calls.filter fun call => call.name = name).getLast?

/-- The calls for each option are the same, in the same order; so each list is a
reordering of the other. -/
def SameForEach (calls reordered : List Entry) : Prop :=
  ∀ name ∈ names,
    (calls.filter fun call => call.name = name) =
      reordered.filter fun call => call.name = name

theorem setAll_append (options : Options) (first second : List Entry) :
    options.setAll (first ++ second) = (options.setAll first).setAll second :=
  List.foldl_append

theorem Entry.name_mem_names (entry : Entry) : entry.name ∈ names := by
  cases entry <;> simp [Entry.name, names]

theorem lastNamed?_append_singleton (name : String) (calls : List Entry)
    (call : Entry) :
    lastNamed? name (calls ++ [call]) =
      if call.name = name then some call else lastNamed? name calls := by
  unfold lastNamed?
  rw [List.filter_append]
  by_cases isNamed : call.name = name <;> simp [isNamed]

/-- An option has the value to which it was set last, or the one that it had
before if it was not set. -/
theorem mem_entries_setAll_iff (options : Options) (calls : List Entry)
    (entry : Entry) :
    entry ∈ (options.setAll calls).entries ↔
      lastNamed? entry.name calls = some entry ∨
        lastNamed? entry.name calls = none ∧ entry ∈ options.entries := by
  induction calls using List.reverseRecOn with
  | nil => simp [setAll, lastNamed?]
  | append_singleton before call inductionHypothesis =>
      rw [setAll_append, lastNamed?_append_singleton]
      change entry ∈ ((options.setAll before).set call).entries ↔ _
      rw [mem_entries_set_iff, inductionHypothesis]
      by_cases same : call.name = entry.name
      · simp [same, eq_comm]
      · have differ : entry ≠ call := fun equal => same (by rw [equal])
        simp [same, differ, Ne.symm same]

theorem SameForEach.setAll_eq {calls reordered : List Entry}
    (same : SameForEach calls reordered) (options : Options) :
    options.setAll calls = options.setAll reordered := by
  apply eq_of_mem_entries_iff
  intro entry
  have last : lastNamed? entry.name calls = lastNamed? entry.name reordered :=
    congrArg List.getLast? (same entry.name entry.name_mem_names)
  rw [mem_entries_setAll_iff, mem_entries_setAll_iff, last]

theorem fill_set {call : Entry} (notSelect : call.name ≠ "$select")
    (options : Options) (settings : Settings) :
    (options.set call).fill settings = (options.fill settings).set call := by
  cases call with
  | select selection => exact absurd rfl notSelect
  | _ => rfl

theorem fill_setAll {calls : List Entry}
    (noSelect : ∀ call ∈ calls, call.name ≠ "$select") (options : Options)
    (settings : Settings) :
    (options.setAll calls).fill settings =
      (options.fill settings).setAll calls := by
  induction calls generalizing options with
  | nil => rfl
  | cons call rest inductionHypothesis =>
      have notSelect := noSelect call (by simp)
      have restNoSelect : ∀ later ∈ rest, later.name ≠ "$select" :=
        fun later member => noSelect later (by simp [member])
      change ((options.set call).setAll rest).fill settings = _
      rw [inductionHypothesis restNoSelect, fill_set notSelect]
      rfl

/-- Sets options one after the other and fills the open ones after the given
number of calls. -/
def setAllFilling (options : Options) (settings : Settings)
    (calls : List Entry) (position : Nat) : Options :=
  ((options.setAll (calls.take position)).fill settings).setAll
    (calls.drop position)

theorem setAllFilling_eq {calls : List Entry}
    (noSelect : ∀ call ∈ calls, call.name ≠ "$select") (options : Options)
    (settings : Settings) (position : Nat) :
    options.setAllFilling settings calls position =
      (options.setAll calls).fill settings := by
  have restNoSelect : ∀ call ∈ calls.drop position, call.name ≠ "$select" :=
    fun call member => noSelect call (List.mem_of_mem_drop member)
  rw [setAllFilling, ← fill_setAll restNoSelect, ← setAll_append,
    List.take_append_drop]

/-- Calls may be reordered as long as those for one option keep their order; the
last one for an option wins, and an option without calls stays as it was.  If
none of them is for the selection, the open options may be filled after any
number of calls. -/
theorem setAll_reordered_and_filled (options : Options)
    (settings : Settings) :
    (∀ calls reordered, SameForEach calls reordered →
      options.setAll calls = options.setAll reordered) ∧
    (∀ calls entry, entry ∈ (options.setAll calls).entries ↔
      lastNamed? entry.name calls = some entry ∨
        lastNamed? entry.name calls = none ∧ entry ∈ options.entries) ∧
    ∀ calls : List Entry, (∀ call ∈ calls, call.name ≠ "$select") →
      ∀ position other,
        options.setAllFilling settings calls position =
            options.setAllFilling settings calls other ∧
          Url.encodePairs
              (options.setAllFilling settings calls position).pairs =
            Url.encodePairs
              (options.setAllFilling settings calls other).pairs := by
  refine ⟨fun _ _ same => same.setAll_eq options,
    options.mem_entries_setAll_iff, ?_⟩
  intro calls noSelect position other
  have same : options.setAllFilling settings calls position =
      options.setAllFilling settings calls other := by
    rw [setAllFilling_eq noSelect, setAllFilling_eq noSelect]
  exact ⟨same, by rw [same]⟩

/-- The length of a page is set twice, and filling comes first or between. -/
theorem setAll_reordered_and_filled_of_two_tops :
    SameForEach [.top 5, .expand ["Owner"], .top 7, .metadata .full]
        [.metadata .full, .top 5, .top 7, .expand ["Owner"]] ∧
      empty.setAll [.top 5, .expand ["Owner"], .top 7, .metadata .full] =
        empty.setAll [.metadata .full, .top 5, .top 7, .expand ["Owner"]] ∧
      .top 7 ∈ (empty.setAll
        [.top 5, .expand ["Owner"], .top 7, .metadata .full]).entries ∧
      empty.setAllFilling .standard
          [.top 5, .expand ["Owner"], .top 7, .metadata .full] 0 =
        empty.setAllFilling .standard
          [.top 5, .expand ["Owner"], .top 7, .metadata .full] 2 := by
  obtain ⟨reorders, lastWins, fills⟩ :=
    setAll_reordered_and_filled empty .standard
  have same : SameForEach [.top 5, .expand ["Owner"], .top 7, .metadata .full]
      [.metadata .full, .top 5, .top 7, .expand ["Owner"]] := by
    unfold SameForEach
    decide
  exact ⟨same, reorders _ _ same, (lastWins _ _).mpr (.inl rfl),
    (fills _ (by decide) 0 2).1⟩

end Options

end ContentSearch
