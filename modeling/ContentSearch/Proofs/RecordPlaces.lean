import ContentSearch.Proofs.Grammars

/-!
# Places of a record

Each field of a record has a place: the name of its member, the grammar of its
values, and the value that a record has there.  An object is read place by
place, in the order of the bytes of the names.  One visit succeeds or fails by
the member of its own place, whatever the record is by then, and changes the
value in its own place only.

By induction on the visits, the value in a place is decided by the member with
its name alone, or is that of the record at the start if there is no such
member; members with other names make no difference; and if some members are
refused, the fault is that of the one whose name has the smallest bytes.
-/

namespace ContentSearch

/-- The bytes of a name come before those of another name. -/
def BytesBefore (left right : String) : Prop :=
  left.toList.flatMap String.utf8EncodeChar <
    right.toList.flatMap String.utf8EncodeChar

namespace BytesBefore

instance (left right : String) : Decidable (BytesBefore left right) :=
  inferInstanceAs (Decidable (_ < _))

theorem asymm {left right : String} (before : BytesBefore left right) :
    ¬ BytesBefore right left :=
  List.lt_asymm before

theorem ne {left right : String} (before : BytesBefore left right) :
    left ≠ right := by
  rintro rfl
  exact before.asymm before

end BytesBefore

theorem exists_of_forall₂ {β γ : Type*} {related : β → γ → Prop}
    {left : List β} {right : List γ} (all : List.Forall₂ related left right)
    {item : β} (member : item ∈ left) : ∃ other ∈ right, related item other := by
  induction all with
  | nil => cases member
  | @cons first second left right isRelated rest inductionHypothesis =>
      rcases List.mem_cons.mp member with rfl | member
      · exact ⟨second, List.mem_cons_self, isRelated⟩
      · obtain ⟨other, isOther, otherRelated⟩ := inductionHypothesis member
        exact ⟨other, List.mem_cons_of_mem second isOther, otherRelated⟩

/-- A place of a record: the name of its member, what the member may be, and
the value that a record has in the place. -/
structure RecordPlace (α : Type) where
  name : String
  Value : Type
  grammar : Grammar Value
  value : α → Value

namespace RecordPlace

variable {α : Type}

/-- The member with the name of the place, if there is one, has a value of the
grammar. -/
def Accepts (place : RecordPlace α) (members : List (String × Json)) : Prop :=
  ∀ json, members.lookup place.name = some json →
    ∃ value, place.grammar.Accepts json value

/-- There is a member with the name of the place, and it has this fault. -/
def Refuses (place : RecordPlace α) (members : List (String × Json))
    (fault : ReadError) : Prop :=
  ∃ json, members.lookup place.name = some json ∧
    place.grammar.Refuses json fault

/-- The record has in the place what the member with its name stands for, or,
if there is no such member, what the record at the start has there. -/
def Receives (place : RecordPlace α) (members : List (String × Json))
    (start record : α) : Prop :=
  match members.lookup place.name with
  | some json => place.grammar.Accepts json (place.value record)
  | none => place.value record = place.value start

/-- The field of the place among all places of the record: it reads the grammar
of the place, puts what was read into the place, and leaves the other places
as they are. -/
inductive FilledBy (places : List (RecordPlace α)) (place : RecordPlace α) :
    RecordField α → Prop
  | of {read : Json → Except ReadError place.Value}
      {store : place.Value → α → α} (isRead : place.grammar.IsReadBy read)
      (stored : ∀ value record, place.value (store value record) = value)
      (kept : ∀ other ∈ places, other.name ≠ place.name →
        ∀ value record, other.value (store value record) = other.value record) :
      FilledBy places place (.of place.name read store)

theorem Receives.accepts {place : RecordPlace α}
    {members : List (String × Json)} {start record : α}
    (receives : place.Receives members start record) :
    place.Accepts members := by
  intro json found
  rw [Receives, found] at receives
  exact ⟨_, receives⟩

theorem receives_congr {place : RecordPlace α}
    {members : List (String × Json)} {start record otherStart other : α}
    (sameStart : place.value start = place.value otherStart)
    (same : place.value record = place.value other) :
    place.Receives members start record ↔
      place.Receives members otherStart other := by
  unfold Receives
  rw [sameStart, same]

namespace FilledBy

variable {places : List (RecordPlace α)} {field : RecordField α}
  {place : RecordPlace α} {members : List (String × Json)} {record : α}

theorem name_eq (filled : place.FilledBy places field) :
    field.name = place.name := by
  obtain ⟨isRead, stored, kept⟩ := filled
  rfl

/-- A visit succeeds or fails by the member of its own place. -/
theorem exists_visit_eq_ok_iff (filled : place.FilledBy places field) :
    (∃ next, RecordFormat.visit members record field = .ok next) ↔
      place.Accepts members := by
  obtain ⟨isRead, stored, kept⟩ := filled
  rw [RecordFormat.visit_of, Accepts]
  cases members.lookup place.name with
  | none => simp
  | some json =>
      simp only [map_eq_ok_iff, isRead.ok_iff, Option.some.injEq,
        forall_eq']
      constructor
      · rintro ⟨_, value, accepted, _⟩
        exact ⟨value, accepted⟩
      · rintro ⟨value, accepted⟩
        exact ⟨_, value, accepted, rfl⟩

theorem visit_eq_error_iff (filled : place.FilledBy places field)
    {fault : ReadError} :
    RecordFormat.visit members record field = .error fault ↔
      place.Refuses members fault := by
  obtain ⟨isRead, stored, kept⟩ := filled
  rw [RecordFormat.visit_of, Refuses]
  cases members.lookup place.name with
  | none => simp
  | some json => simp [map_eq_error_iff, isRead.error_iff]

/-- A visit that succeeds puts into the place what its member stands for, and
leaves all other places as they are. -/
theorem receives_and_kept_of_visit (filled : place.FilledBy places field)
    {next : α}
    (visited : RecordFormat.visit members record field = .ok next) :
    place.Receives members record next ∧
      ∀ other ∈ places, other.name ≠ place.name →
        other.value next = other.value record := by
  obtain ⟨isRead, stored, kept⟩ := filled
  rw [RecordFormat.visit_of] at visited
  rw [Receives]
  cases found : members.lookup place.name with
  | none =>
      simp only [found, Except.ok.injEq] at visited
      subst visited
      exact ⟨rfl, fun _ _ _ => rfl⟩
  | some json =>
      simp only [found, map_eq_ok_iff] at visited
      obtain ⟨value, accepted, rfl⟩ := visited
      constructor
      · change place.grammar.Accepts json _
        rw [stored]
        exact isRead.ok_iff.mp accepted
      · intro other isOther different
        exact kept other isOther different value record

/-- What a place receives is decided by the member with its name. -/
theorem value_unique (filled : place.FilledBy places field)
    {others : List (String × Json)} {start left right : α}
    (same : members.lookup place.name = others.lookup place.name)
    (isLeft : place.Receives members start left)
    (isRight : place.Receives others start right) :
    place.value left = place.value right := by
  obtain ⟨isRead, stored, kept⟩ := filled
  rw [Receives, same] at isLeft
  rw [Receives] at isRight
  cases found : others.lookup place.name with
  | none =>
      rw [found] at isLeft isRight
      exact isLeft.trans isRight.symm
  | some json =>
      rw [found] at isLeft isRight
      exact isRead.accepts_unique isLeft isRight

end FilledBy

section Visits

variable {places visited : List (RecordPlace α)}
  {fields : List (RecordField α)} {members : List (String × Json)} {record : α}

/-- The visits succeed exactly if each of them does on its own: no visit
depends on the record that the earlier ones have left. -/
theorem exists_visits_eq_ok_iff
    (filled : List.Forall₂ (FilledBy places) visited fields) :
    (∃ last, fields.foldlM (RecordFormat.visit members) record = .ok last) ↔
      ∀ place ∈ visited, place.Accepts members := by
  induction filled generalizing record with
  | nil => simp [pure, Except.pure]
  | @cons place field visited fields first rest inductionHypothesis =>
      simp only [List.foldlM_cons, bind_eq_ok_iff, List.forall_mem_cons]
      constructor
      · rintro ⟨last, next, step, run⟩
        exact ⟨first.exists_visit_eq_ok_iff.mp ⟨next, step⟩,
          inductionHypothesis.mp ⟨last, run⟩⟩
      · rintro ⟨accepted, restAccepted⟩
        obtain ⟨next, step⟩ := first.exists_visit_eq_ok_iff.mpr accepted
        obtain ⟨last, run⟩ := inductionHypothesis.mpr restAccepted
        exact ⟨last, next, step, run⟩

/-- The visits fail with the fault of the first member that is refused. -/
theorem visits_eq_error_iff
    (filled : List.Forall₂ (FilledBy places) visited fields)
    {fault : ReadError} :
    fields.foldlM (RecordFormat.visit members) record = .error fault ↔
      FailsFirst (Accepts · members) (Refuses · members fault) visited := by
  induction filled generalizing record with
  | nil =>
      refine iff_of_false ?_ ?_
      · rintro ⟨⟩
      · rintro ⟨⟩
  | @cons place field visited fields first rest inductionHypothesis =>
      rw [List.foldlM_cons, bind_eq_error_iff]
      constructor
      · rintro (failed | ⟨next, step, failed⟩)
        · exact .here (first.visit_eq_error_iff.mp failed)
        · exact .later (first.exists_visit_eq_ok_iff.mp ⟨next, step⟩)
            (inductionHypothesis.mp failed)
      · rintro (refused | ⟨accepted, failed⟩)
        · exact .inl (first.visit_eq_error_iff.mpr refused)
        · obtain ⟨next, step⟩ := first.exists_visit_eq_ok_iff.mpr accepted
          exact .inr ⟨next, step, inductionHypothesis.mpr failed⟩

/-- After all visits each visited place has what its own member stands for, and
each other place is as it was. -/
theorem receives_and_kept_of_visits
    (filled : List.Forall₂ (FilledBy places) visited fields)
    (distinct : visited.Pairwise fun left right => left.name ≠ right.name)
    (within : ∀ place ∈ visited, place ∈ places) {last : α}
    (run : fields.foldlM (RecordFormat.visit members) record = .ok last) :
    (∀ place ∈ visited, place.Receives members record last) ∧
      ∀ other ∈ places, (∀ place ∈ visited, other.name ≠ place.name) →
        other.value last = other.value record := by
  induction filled generalizing record with
  | nil =>
      obtain rfl := Except.ok.inj run
      exact ⟨by simp, fun _ _ _ => rfl⟩
  | @cons place field visited fields first rest inductionHypothesis =>
      rw [List.foldlM_cons, bind_eq_ok_iff] at run
      obtain ⟨next, step, run⟩ := run
      obtain ⟨placeDistinct, restDistinct⟩ := List.pairwise_cons.mp distinct
      obtain ⟨isPlace, restWithin⟩ := List.forall_mem_cons.mp within
      obtain ⟨placeReceives, placeKept⟩ := first.receives_and_kept_of_visit step
      obtain ⟨restReceives, restKept⟩ :=
        inductionHypothesis restDistinct restWithin run
      constructor
      · refine List.forall_mem_cons.mpr ⟨?_, ?_⟩
        · have same := restKept place isPlace placeDistinct
          exact (receives_congr rfl same).mpr placeReceives
        · intro other member
          have different := (placeDistinct other member).symm
          have same := placeKept other (restWithin other member) different
          exact (receives_congr same rfl).mp (restReceives other member)
      · intro other isOther different
        obtain ⟨otherDifferent, restDifferent⟩ :=
          List.forall_mem_cons.mp different
        rw [restKept other isOther restDifferent]
        exact placeKept other isOther otherDifferent

end Visits

end RecordPlace

/-- Objects are read field by field into the places of a record. -/
structure ReadsFieldwise {α : Type} (read : Json → Except ReadError α)
    (start : α) (places : List (RecordPlace α)) : Prop where
  /-- An object is read exactly if every member with the name of a place has a
  value of its grammar. -/
  exists_ok_iff : ∀ members, (∃ record, read (.object members) = .ok record) ↔
    ∀ place ∈ places, place.Accepts members
  /-- The record is the one that has in each place what the member with its
  name stands for, or what the start has there. -/
  ok_iff : ∀ members record, read (.object members) = .ok record ↔
    ∀ place ∈ places, place.Receives members start record
  /-- Two records that are read have the same value in a place if the members
  with its name are the same, whatever the other members are. -/
  value_eq : ∀ {members others record other},
    read (.object members) = .ok record → read (.object others) = .ok other →
    ∀ place ∈ places, members.lookup place.name = others.lookup place.name →
      place.value record = place.value other
  /-- Objects with the same members under the names of the places are read
  alike, whatever their other members are. -/
  congr : ∀ members others,
    (∀ place ∈ places,
      members.lookup place.name = others.lookup place.name) →
    read (.object members) = read (.object others)
  /-- The fault is that of the refused member whose name has the smallest
  bytes; the faults of all other members make no difference. -/
  error_iff : ∀ members fault, read (.object members) = .error fault ↔
    ∃ place ∈ places, place.Refuses members fault ∧
      ∀ smaller ∈ places, BytesBefore smaller.name place.name →
        smaller.Accepts members

namespace RecordFormat

variable {α : Type} {format : RecordFormat α} {places : List (RecordPlace α)}

/-- The fields of the format fill the places of its records in the order of
their names, and a record is known by its values in the places. -/
structure HasPlaces (format : RecordFormat α) (places : List (RecordPlace α)) :
    Prop where
  filled : List.Forall₂ (RecordPlace.FilledBy places) places format.byName
  sorted : places.Pairwise fun left right => BytesBefore left.name right.name
  determined : ∀ {left right},
    (∀ place ∈ places, place.value left = place.value right) → left = right

namespace HasPlaces

theorem receives_of_read (has : format.HasPlaces places)
    {members : List (String × Json)} {record : α}
    (read : format.read (.object members) = .ok record) :
    ∀ place ∈ places, place.Receives members format.start record :=
  (RecordPlace.receives_and_kept_of_visits has.filled
    (has.sorted.imp BytesBefore.ne) (fun _ isPlace => isPlace) read).1

theorem read_eq_ok_of_receives (has : format.HasPlaces places)
    {members : List (String × Json)} {record : α}
    (receives : ∀ place ∈ places,
      place.Receives members format.start record) :
    format.read (.object members) = .ok record := by
  obtain ⟨last, read⟩ := (RecordPlace.exists_visits_eq_ok_iff has.filled).mpr
    fun place isPlace => (receives place isPlace).accepts
  have same : last = record := by
    apply has.determined
    intro place isPlace
    obtain ⟨field, -, filled⟩ := exists_of_forall₂ has.filled isPlace
    have received := has.receives_of_read read place isPlace
    exact filled.value_unique rfl received (receives place isPlace)
  rw [← same]
  exact read

theorem read_congr (has : format.HasPlaces places)
    {members others : List (String × Json)}
    (same : ∀ place ∈ places,
      members.lookup place.name = others.lookup place.name) :
    format.read (.object members) = format.read (.object others) := by
  apply foldlM_visit_congr
  intro field isField
  obtain ⟨place, isPlace, filled⟩ := exists_of_forall₂ has.filled.flip isField
  rw [filled.name_eq]
  exact same place isPlace

/-- A format with places reads objects field by field. -/
theorem readsFieldwise (has : format.HasPlaces places) :
    ReadsFieldwise format.read format.start places where
  exists_ok_iff _ := RecordPlace.exists_visits_eq_ok_iff has.filled
  ok_iff _ _ := ⟨has.receives_of_read, has.read_eq_ok_of_receives⟩
  value_eq readLeft readRight place isPlace same := by
    obtain ⟨field, -, filled⟩ := exists_of_forall₂ has.filled isPlace
    have isLeft := has.receives_of_read readLeft place isPlace
    have isRight := has.receives_of_read readRight place isPlace
    exact filled.value_unique same isLeft isRight
  congr _ _ := has.read_congr
  error_iff _ _ := (RecordPlace.visits_eq_error_iff has.filled).trans
    (FailsFirst.iff_of_pairwise BytesBefore.asymm has.sorted)

end HasPlaces

end RecordFormat

end ContentSearch
