import ContentSearch.Json.Reading

/-!
# Reading records

A record is read field by field, and a field is read from the value that is
given for it, if one is given: from the member with its name in an object, and
from the element at its place in a list.  So members with other names than the
fields make no difference, not even to the fault of an object that is refused.
-/

namespace ContentSearch

theorem bind_eq_ok_iff {ε α β : Type} {first : Except ε α}
    {next : α → Except ε β} {result : β} :
    first >>= next = .ok result ↔
      ∃ value, first = .ok value ∧ next value = .ok result := by
  cases first <;> simp [bind, Except.bind]

theorem bind_eq_error_iff {ε α β : Type} {first : Except ε α}
    {next : α → Except ε β} {fault : ε} :
    first >>= next = .error fault ↔
      first = .error fault ∨
        ∃ value, first = .ok value ∧ next value = .error fault := by
  cases first <;> simp [bind, Except.bind]

theorem map_eq_ok_iff {ε α β : Type} {given : Except ε α} {apply : α → β}
    {result : β} :
    given.map apply = .ok result ↔
      ∃ value, given = .ok value ∧ apply value = result := by
  cases given <;> simp [Except.map]

theorem map_eq_error_iff {ε α β : Type} {given : Except ε α} {apply : α → β}
    {fault : ε} :
    given.map apply = .error fault ↔ given = .error fault := by
  cases given <;> simp [Except.map]

namespace Json

theorem readNatural_eq_ok_iff {json : Json} {number : UInt64} :
    json.readNatural = .ok number ↔ json = .integer number.toNat := by
  cases json with
  | integer value =>
      have small : number.toNat < UInt64.size := number.toNat_lt
      rw [readNatural, integer.injEq]
      by_cases inRange : 0 ≤ value ∧ value < UInt64.size
      · obtain ⟨natural, rfl⟩ := Int.eq_ofNat_of_zero_le inRange.1
        have bound : natural < 2 ^ 64 := by exact_mod_cast inRange.2
        rw [if_pos inRange, Except.ok.injEq, Int.toNat_natCast, Int.natCast_inj]
        constructor
        · rintro rfl
          rw [UInt64.toNat_ofNat_of_lt' bound]
        · rintro rfl
          exact UInt64.ofNat_toNat
      · rw [if_neg inRange]
        refine iff_of_false (by simp) ?_
        rintro rfl
        exact inRange (by omega)
  | _ => simp [readNatural]

/-- Looking up a known name, members with unknown names can be left out. -/
theorem lookup_filter_of_known {known : String → Bool} {name : String}
    (isKnown : known name = true) (members : List (String × Json)) :
    (members.filter fun member => known member.1).lookup name =
      members.lookup name := by
  induction members with
  | nil => rfl
  | cons member rest inductionHypothesis =>
      obtain ⟨other, json⟩ := member
      by_cases same : name = other
      · subst same
        simp [isKnown]
      · have notFound : (name == other) = false := by simpa using same
        rw [List.lookup_cons, notFound, List.filter_cons]
        split
        · rw [List.lookup_cons, notFound]
          exact inductionHypothesis
        · exact inductionHypothesis

end Json

namespace RecordField

variable {α : Type}

/-- What becomes of a record when the value of a field is given or missing. -/
def receive (field : RecordField α) (given : Option Json) (record : α) :
    Except ReadError α :=
  match given with
  | some json => field.assign json record
  | none => .ok record

theorem receive_none_eq_ok_iff {field : RecordField α} {record next : α} :
    field.receive none record = .ok next ↔ record = next :=
  Except.ok.injEq record next ▸ Iff.rfl

theorem receive_of_some_eq_ok_iff {β : Type} {name : String}
    {read : Json → Except ReadError β} {store : β → α → α} {json : Json}
    {record next : α} :
    (of name read store).receive (some json) record = .ok next ↔
      ∃ value, read json = .ok value ∧ store value record = next := by
  change (read json).map _ = .ok next ↔ _
  cases read json <;> simp [Except.map]

end RecordField

namespace RecordFormat

variable {α : Type}

theorem visit_eq_receive (members : List (String × Json)) (record : α)
    (field : RecordField α) :
    visit members record field =
      field.receive (members.lookup field.name) record :=
  rfl

theorem visit_of {β : Type} {name : String}
    {read : Json → Except ReadError β} {store : β → α → α}
    (members : List (String × Json)) (record : α) :
    visit members record (.of name read store) =
      match members.lookup name with
      | some json => (read json).map fun value => store value record
      | none => .ok record :=
  rfl

theorem foldlM_visit_congr {members others : List (String × Json)}
    {fields : List (RecordField α)}
    (same : ∀ field ∈ fields,
      members.lookup field.name = others.lookup field.name) (record : α) :
    fields.foldlM (visit members) record =
      fields.foldlM (visit others) record := by
  induction fields generalizing record with
  | nil => rfl
  | cons field rest inductionHypothesis =>
      have later : ∀ other ∈ rest,
          members.lookup other.name = others.lookup other.name :=
        fun other member => same other (List.mem_cons_of_mem _ member)
      rw [List.foldlM_cons, List.foldlM_cons, visit_eq_receive,
        visit_eq_receive, same field List.mem_cons_self]
      exact bind_congr fun next => inductionHypothesis later next

/-- Members with other names than the fields do not change what is read from
an object. -/
theorem read_object_filter (format : RecordFormat α) (known : String → Bool)
    (fields : ∀ field ∈ format.byName, known field.name = true)
    (members : List (String × Json)) :
    format.read (.object (members.filter fun member => known member.1)) =
      format.read (.object members) :=
  foldlM_visit_congr (fun field member =>
    Json.lookup_filter_of_known (fields field member) members) format.start

end RecordFormat

end ContentSearch
