import ContentSearch.Selection
import Mathlib.Data.List.Induction
import Mathlib.Data.List.Nodup

/-!
# Merged selections

Merging collects the names of all selections.  A name is added behind those
that are there already, unless it is one of them, so that in the end every name
is there once and the names stand in the order in which they occurred first.

Adding names to a list is associative: names may be collected in a list of
their own first and be added from there.  For this reason selections can be
merged in groups.
-/

namespace ContentSearch

namespace Selection

/-- The names of a source in the order in which they occur in it first. -/
structure FirstOccurrences (names source : List String) : Prop where
  mem_iff : ∀ name, name ∈ names ↔ name ∈ source
  ordered : names.Pairwise fun earlier later =>
    source.idxOf earlier < source.idxOf later

namespace FirstOccurrences

variable {names source : List String} {name : String}

theorem nodup (first : FirstOccurrences names source) : names.Nodup := by
  apply first.ordered.imp
  intro earlier later before same
  rw [same] at before
  exact Nat.lt_irrefl _ before

theorem nil : FirstOccurrences [] [] :=
  ⟨fun _ => Iff.rfl, .nil⟩

theorem ordered_append (first : FirstOccurrences names source)
    (more : List String) :
    names.Pairwise fun earlier later =>
      (source ++ more).idxOf earlier < (source ++ more).idxOf later := by
  apply first.ordered.imp_of_mem
  intro earlier later isEarlier isLater before
  rw [List.idxOf_append_of_mem ((first.mem_iff earlier).mp isEarlier),
    List.idxOf_append_of_mem ((first.mem_iff later).mp isLater)]
  exact before

theorem append_known (first : FirstOccurrences names source)
    (known : name ∈ names) : FirstOccurrences names (source ++ [name]) := by
  refine ⟨?_, first.ordered_append [name]⟩
  intro other
  rw [List.mem_append, List.mem_singleton, ← first.mem_iff]
  constructor
  · exact Or.inl
  · rintro (member | rfl)
    · exact member
    · exact known

theorem append_new (first : FirstOccurrences names source)
    (new : name ∉ names) :
    FirstOccurrences (names ++ [name]) (source ++ [name]) := by
  constructor
  · intro other
    rw [List.mem_append, List.mem_append, first.mem_iff]
  · refine List.pairwise_append.mpr
      ⟨first.ordered_append [name], List.pairwise_singleton _ _, ?_⟩
    intro earlier isEarlier later isLater
    obtain rfl := List.mem_singleton.mp isLater
    have inSource := (first.mem_iff earlier).mp isEarlier
    have notInSource := (first.mem_iff later).not.mp new
    rw [List.idxOf_append_of_mem inSource,
      List.idxOf_append_of_notMem notInSource]
    have before := List.idxOf_lt_length_of_mem inSource
    omega

end FirstOccurrences

@[simp]
theorem extend_nil (names : List String) : extend names [] = names :=
  rfl

theorem extend_append (names first second : List String) :
    extend names (first ++ second) = extend (extend names first) second :=
  List.foldl_append

theorem extend_cons_of_mem {names : List String} {name : String}
    (known : name ∈ names) (added : List String) :
    extend names (name :: added) = extend names added := by
  simp [extend, known]

theorem extend_cons_of_notMem {names : List String} {name : String}
    (new : name ∉ names) (added : List String) :
    extend names (name :: added) = extend (names ++ [name]) added := by
  simp [extend, new]

theorem mem_extend_iff (names added : List String) (name : String) :
    name ∈ extend names added ↔ name ∈ names ∨ name ∈ added := by
  induction added generalizing names with
  | nil => simp
  | cons head rest inductionHypothesis =>
      by_cases known : head ∈ names
      · rw [extend_cons_of_mem known, inductionHypothesis, List.mem_cons]
        constructor
        · exact Or.imp_right Or.inr
        · rintro (member | rfl | member)
          · exact .inl member
          · exact .inl known
          · exact .inr member
      · rw [extend_cons_of_notMem known, inductionHypothesis]
        simp [or_assoc]

theorem extend_eq_self {names added : List String}
    (known : ∀ name ∈ added, name ∈ names) : extend names added = names := by
  induction added with
  | nil => rfl
  | cons head rest inductionHypothesis =>
      rw [extend_cons_of_mem (known head (by simp))]
      exact inductionHypothesis fun name member => known name (by simp [member])

theorem extend_eq_append {names added : List String}
    (new : (names ++ added).Nodup) : extend names added = names ++ added := by
  induction added generalizing names with
  | nil => simp
  | cons head rest inductionHypothesis =>
      have isNew : head ∉ names := by
        intro known
        exact (List.nodup_append.mp new).2.2 head known head (by simp) rfl
      rw [extend_cons_of_notMem isNew, inductionHypothesis]
      · simp
      · simpa using new

/-- Adding a list of collected names is adding the names that were
collected. -/
theorem extend_assoc (names first second : List String) :
    extend names (extend first second) =
      extend (extend names first) second := by
  induction second generalizing first with
  | nil => rfl
  | cons head rest inductionHypothesis =>
      by_cases known : head ∈ first
      · have stillKnown : head ∈ extend names first :=
          (mem_extend_iff names first head).mpr (.inr known)
        rw [extend_cons_of_mem known, extend_cons_of_mem stillKnown,
          inductionHypothesis]
      · rw [extend_cons_of_notMem known, inductionHypothesis, extend_append,
          ← extend_append, List.singleton_append]

/-- The names that are added are those that are not there yet, by their first
occurrences. -/
theorem exists_extend_eq_append (names added : List String) :
    ∃ new, extend names added = names ++ new ∧
      FirstOccurrences new (added.filter fun name => name ∉ names) := by
  induction added using List.reverseRecOn with
  | nil => exact ⟨[], by simp, .nil⟩
  | append_singleton before name inductionHypothesis =>
      obtain ⟨new, same, first⟩ := inductionHypothesis
      rw [extend_append, same, List.filter_append]
      by_cases known : name ∈ names
      · refine ⟨new, extend_cons_of_mem (by simp [known]) [], ?_⟩
        simpa [known] using first
      · have kept : [name].filter (fun name => name ∉ names) = [name] := by
          simp [known]
        rw [kept]
        by_cases again : name ∈ new
        · exact ⟨new, extend_cons_of_mem (by simp [again]) [],
            first.append_known again⟩
        · refine ⟨new ++ [name], ?_, first.append_new again⟩
          rw [extend_cons_of_notMem (by simp [known, again]), extend_nil,
            List.append_assoc]

def listed : Selection → List String
  | everything => []
  | fields names => names

theorem mergeOnto_eq_everything_iff (names : List String)
    (selections : List Selection) :
    mergeOnto names selections = everything ↔ everything ∈ selections := by
  induction selections generalizing names with
  | nil => simp [mergeOnto]
  | cons selection rest inductionHypothesis =>
      cases selection with
      | everything => simp [mergeOnto]
      | fields added => simp [mergeOnto, inductionHypothesis]

theorem mergeOnto_append {selections : List Selection}
    (onlyFields : everything ∉ selections) (names : List String)
    (more : List Selection) :
    mergeOnto names (selections ++ more) =
      mergeOnto (extend names (selections.flatMap listed)) more := by
  induction selections generalizing names with
  | nil => rfl
  | cons selection rest inductionHypothesis =>
      cases selection with
      | everything => simp at onlyFields
      | fields added =>
          have restOnlyFields : everything ∉ rest := by simpa using onlyFields
          rw [List.cons_append, mergeOnto, inductionHypothesis restOnlyFields,
            List.flatMap_cons, extend_append]
          rfl

theorem merge_eq_fields {selections : List Selection}
    (onlyFields : everything ∉ selections) :
    merge selections = fields (extend [] (selections.flatMap listed)) := by
  have collected := mergeOnto_append onlyFields [] []
  rw [List.append_nil] at collected
  exact collected

theorem mergeOnto_map_merge (names : List String)
    (groups : List (List Selection)) :
    mergeOnto names (groups.map merge) = mergeOnto names groups.flatten := by
  induction groups generalizing names with
  | nil => rfl
  | cons group rest inductionHypothesis =>
      rw [List.map_cons, List.flatten_cons]
      by_cases hasEverything : everything ∈ group
      · have merged : merge group = everything :=
          (mergeOnto_eq_everything_iff [] group).mpr hasEverything
        have absorbed : mergeOnto names (group ++ rest.flatten) = everything :=
          (mergeOnto_eq_everything_iff _ _).mpr (by simp [hasEverything])
        rw [merged, absorbed, mergeOnto]
      · rw [merge_eq_fields hasEverything, mergeOnto, extend_assoc, extend_nil,
          inductionHypothesis, mergeOnto_append hasEverything]

/-- Merged selections select everything exactly if one of them does.  Otherwise
they select the fields of all of them, each once and by first occurrence.  It
does not matter whether neighbours were merged before. -/
theorem merge_firstOccurrences_and_merge_groups
    (selections : List Selection) :
    (merge selections = everything ↔ everything ∈ selections) ∧
      (everything ∉ selections → ∃ names,
        merge selections = fields names ∧ names.Nodup ∧
          FirstOccurrences names (selections.flatMap listed)) ∧
      ∀ groups : List (List Selection), groups.flatten = selections →
        merge (groups.map merge) = merge selections := by
  refine ⟨mergeOnto_eq_everything_iff [] selections, ?_, ?_⟩
  · intro onlyFields
    obtain ⟨names, same, first⟩ :=
      exists_extend_eq_append [] (selections.flatMap listed)
    have source : (selections.flatMap listed).filter (fun name =>
        name ∉ ([] : List String)) = selections.flatMap listed := by
      simp
    rw [source] at first
    rw [merge_eq_fields onlyFields, same]
    exact ⟨names, rfl, first.nodup, first⟩
  · rintro groups rfl
    exact mergeOnto_map_merge [] groups

/-- Three selections that share fields, merged at once and in groups of which
one is empty. -/
theorem merge_firstOccurrences_of_overlapping_selections :
    ∃ names,
      merge [fields ["Id", "Name"], fields [],
        fields ["Name", "Icon", "Id", "Icon"]] = fields names ∧
      names.Nodup ∧
      FirstOccurrences names ["Id", "Name", "Name", "Icon", "Id", "Icon"] ∧
      merge ([[fields ["Id", "Name"]], [],
          [fields [], fields ["Name", "Icon", "Id", "Icon"]]].map merge) =
        fields names := by
  obtain ⟨-, collects, inGroups⟩ := merge_firstOccurrences_and_merge_groups
    [fields ["Id", "Name"], fields [], fields ["Name", "Icon", "Id", "Icon"]]
  obtain ⟨names, merged, nodup, first⟩ := collects (by decide)
  refine ⟨names, merged, nodup, first, ?_⟩
  rw [← merged]
  exact inGroups _ rfl

end Selection

end ContentSearch
