import ContentSearch.Page
import ContentSearch.Proofs.Records

/-!
# Envelopes of pages

A page comes wrapped in an envelope: an object whose member `d` has the
contents, or a list with the contents as its only element.  The contents are an
object or a list again, and both of their parts may be missing: the number of
results, which may also be `null`, and the records, which may not.

This file states that format as a relation between a JSON value and what it
holds, and shows that a response is read exactly if it has the format.  Members
with other names make no difference, not even to the fault of a response that
is refused.
-/

namespace ContentSearch

namespace Page

/-- The number of results that a value tells, if it is given and not `null`. -/
inductive TellsCount : Option Json → Option Nat → Prop
  | missing : TellsCount none none
  | null : TellsCount (some .null) none
  | number {count : Nat} (bound : count < UInt64.size) :
      TellsCount (some (.integer count)) (some count)

/-- The records that a value holds, if it is given. -/
inductive HoldsRecords : Option Json → List Json → Prop
  | missing : HoldsRecords none []
  | list (records : List Json) : HoldsRecords (some (.list records)) records

/-- The JSON value has the contents of an envelope, as the members of an object
or as the elements of a list. -/
inductive HasContents : Json → Option Nat → List Json → Prop
  | object {members : List (String × Json)} {count : Option Nat}
      {records : List Json}
      (tells : TellsCount (members.lookup "__count") count)
      (holds : HoldsRecords (members.lookup "results") records) :
      HasContents (.object members) count records
  | list {elements : List Json} {count : Option Nat} {records : List Json}
      (few : elements.length ≤ 2)
      (tells : TellsCount elements[0]? count)
      (holds : HoldsRecords elements[1]? records) :
      HasContents (.list elements) count records

/-- The JSON value is an envelope around the contents. -/
inductive Envelops : Json → Json → Prop
  | object {members : List (String × Json)} {contents : Json}
      (named : members.lookup "d" = some contents) :
      Envelops (.object members) contents
  | list (contents : Json) : Envelops (.list [contents]) contents

namespace Contents

theorem readOptional_readNatural_eq_ok_iff {json : Json}
    {count : Option UInt64} :
    Json.readOptional Json.readNatural json = .ok count ↔
      TellsCount (some json) (count.map UInt64.toNat) := by
  constructor
  · intro read
    unfold Json.readOptional at read
    split at read
    · obtain rfl := Except.ok.inj read
      exact .null
    · cases found : json.readNatural with
      | error fault => simp [found, Except.map] at read
      | ok number =>
          obtain rfl : some number = count := by
            simpa [found, Except.map] using read
          rw [Json.readNatural_eq_ok_iff.mp found]
          exact .number number.toNat_lt
  · intro tells
    cases count with
    | none =>
        cases tells
        rfl
    | some number =>
        have found : json.readNatural = .ok number := by
          cases tells
          exact Json.readNatural_eq_ok_iff.mpr rfl
        have notNull : json ≠ .null := by
          rintro rfl
          cases tells
        unfold Json.readOptional
        split
        · contradiction
        · rw [found]
          rfl

theorem readItems_eq_ok_iff {json : Json} {records : List Json} :
    json.readItems = .ok records ↔ HoldsRecords (some json) records := by
  constructor
  · intro read
    unfold Json.readItems at read
    split at read
    · obtain rfl := Except.ok.inj read
      exact .list _
    · simp at read
  · rintro ⟨⟩
    rfl

theorem receive_countField_eq_ok_iff {given : Option Json}
    {records : List Json} {next : Contents} :
    countField.receive given ⟨none, records⟩ = .ok next ↔
      TellsCount given (next.count.map UInt64.toNat) ∧
        next.results = records := by
  obtain ⟨count, results⟩ := next
  cases given with
  | none =>
      rw [RecordField.receive_none_eq_ok_iff, mk.injEq]
      constructor
      · rintro ⟨rfl, rfl⟩
        exact ⟨.missing, rfl⟩
      · rintro ⟨tells, rfl⟩
        cases count with
        | none => exact ⟨rfl, rfl⟩
        | some number => cases tells
  | some json =>
      rw [countField, RecordField.receive_of_some_eq_ok_iff]
      simp only [readOptional_readNatural_eq_ok_iff, mk.injEq]
      constructor
      · rintro ⟨_, tells, rfl, rfl⟩
        exact ⟨tells, rfl⟩
      · rintro ⟨tells, rfl⟩
        exact ⟨count, tells, rfl, rfl⟩

theorem receive_resultsField_eq_ok_iff {given : Option Json}
    {count : Option UInt64} {next : Contents} :
    resultsField.receive given ⟨count, []⟩ = .ok next ↔
      HoldsRecords given next.results ∧ next.count = count := by
  obtain ⟨nextCount, results⟩ := next
  cases given with
  | none =>
      rw [RecordField.receive_none_eq_ok_iff, mk.injEq]
      constructor
      · rintro ⟨rfl, rfl⟩
        exact ⟨.missing, rfl⟩
      · rintro ⟨⟨⟩, rfl⟩
        exact ⟨rfl, rfl⟩
  | some json =>
      rw [resultsField, RecordField.receive_of_some_eq_ok_iff]
      simp only [readItems_eq_ok_iff, mk.injEq]
      constructor
      · rintro ⟨_, holds, rfl, rfl⟩
        exact ⟨holds, rfl⟩
      · rintro ⟨holds, rfl⟩
        exact ⟨results, holds, rfl, rfl⟩

/-- The contents with the given number of results and records. -/
def receive (count records : Option Json) : Except ReadError Contents := do
  let contents ← countField.receive count format.start
  resultsField.receive records contents

theorem receive_eq_ok_iff {count records : Option Json} {contents : Contents} :
    receive count records = .ok contents ↔
      TellsCount count (contents.count.map UInt64.toNat) ∧
        HoldsRecords records contents.results := by
  rw [receive, bind_eq_ok_iff]
  constructor
  · rintro ⟨counted, received, held⟩
    obtain ⟨tells, noRecords⟩ := receive_countField_eq_ok_iff.mp received
    obtain ⟨number, results⟩ := counted
    obtain rfl : results = [] := noRecords
    obtain ⟨holds, rfl⟩ := receive_resultsField_eq_ok_iff.mp held
    exact ⟨tells, holds⟩
  · rintro ⟨tells, holds⟩
    exact ⟨⟨contents.count, []⟩,
      receive_countField_eq_ok_iff.mpr ⟨tells, rfl⟩,
      receive_resultsField_eq_ok_iff.mpr ⟨holds, rfl⟩⟩

theorem read_object (members : List (String × Json)) :
    format.read (.object members) =
      receive (members.lookup "__count") (members.lookup "results") := by
  change (countField.receive _ _ >>= fun contents =>
    resultsField.receive _ contents >>= pure) = _
  simp only [bind_pure]
  rfl

/-- Only the first two elements of a list are read, and no more are allowed. -/
theorem read_list (elements : List Json) :
    format.read (.list elements) =
      receive elements[0]? elements[1]? >>= fun contents =>
        if 2 < elements.length then
          .error (.extraElements elements.length)
        else
          .ok contents := by
  rcases elements with _ | ⟨count, _ | ⟨records, rest⟩⟩
  · rfl
  · simp [RecordFormat.read, receive, format, RecordField.receive]
    rfl
  · simp [RecordFormat.read, receive, format, RecordField.receive]

/-- The contents of an envelope are read exactly from a value that has them. -/
theorem read_eq_ok_iff_hasContents {json : Json} {contents : Contents} :
    format.read json = .ok contents ↔
      HasContents json (contents.count.map UInt64.toNat) contents.results := by
  cases json with
  | object members =>
      rw [read_object, receive_eq_ok_iff]
      constructor
      · rintro ⟨tells, holds⟩
        exact .object tells holds
      · rintro ⟨tells, holds⟩
        exact ⟨tells, holds⟩
  | list elements =>
      rw [read_list, bind_eq_ok_iff]
      constructor
      · rintro ⟨received, read, kept⟩
        split at kept
        case isTrue => simp at kept
        case isFalse few =>
          obtain rfl := Except.ok.inj kept
          obtain ⟨tells, holds⟩ := receive_eq_ok_iff.mp read
          exact .list (Nat.not_lt.mp few) tells holds
      · rintro (_ | ⟨few, tells, holds⟩)
        refine ⟨contents, receive_eq_ok_iff.mpr ⟨tells, holds⟩, ?_⟩
        rw [if_neg (Nat.not_lt.mpr few)]
  | _ =>
      refine iff_of_false (by simp [RecordFormat.read]) ?_
      rintro ⟨⟩

theorem total_page (contents : Contents) :
    contents.page.total =
      (contents.count.map UInt64.toNat).getD contents.results.length := by
  obtain ⟨count, results⟩ := contents
  cases count <;> rfl

end Contents

theorem receive_contentsField_eq_ok_iff {given : Option Json}
    {contents : Contents} :
    contentsField.receive given none = .ok (some contents) ↔
      ∃ content, given = some content ∧
        Contents.format.read content = .ok contents := by
  cases given with
  | none => simp [RecordField.receive]
  | some json =>
      rw [contentsField, RecordField.receive_of_some_eq_ok_iff]
      simp

/-- The envelope is read exactly if there is one and its contents are read. -/
theorem envelope_read_eq_ok_iff {json : Json} {contents : Contents} :
    envelope.read json = .ok (some contents) ↔
      ∃ content, Envelops json content ∧
        Contents.format.read content = .ok contents := by
  cases json with
  | object members =>
      have reading : envelope.read (.object members) =
          contentsField.receive (members.lookup "d") none := by
        change (contentsField.receive _ _ >>= pure) = _
        rw [bind_pure]
        rfl
      rw [reading, receive_contentsField_eq_ok_iff]
      constructor
      · rintro ⟨content, named, read⟩
        exact ⟨content, .object named, read⟩
      · rintro ⟨content, ⟨named⟩, read⟩
        exact ⟨content, named, read⟩
  | list elements =>
      rcases elements with _ | ⟨element, _ | ⟨next, rest⟩⟩
      · refine iff_of_false (by simp [RecordFormat.read, envelope]) ?_
        rintro ⟨_, ⟨⟩, _⟩
      · have reading : envelope.read (.list [element]) =
            contentsField.receive (some element) none := by
          change ((contentsField.assign element none >>= pure) >>= pure) = _
          rw [bind_pure, bind_pure]
          rfl
        rw [reading, receive_contentsField_eq_ok_iff]
        constructor
        · rintro ⟨_, ⟨⟩, read⟩
          exact ⟨_, .list _, read⟩
        · rintro ⟨_, ⟨⟩, read⟩
          exact ⟨_, rfl, read⟩
      · refine iff_of_false ?_ ?_
        · intro read
          obtain ⟨_, _, kept⟩ := bind_eq_ok_iff.mp read
          simp [envelope] at kept
        · rintro ⟨_, ⟨⟩, _⟩
  | _ =>
      refine iff_of_false (by simp [RecordFormat.read]) ?_
      rintro ⟨_, ⟨⟩, _⟩

theorem read_eq_ok_iff_exists_envelops {json : Json} {page : Page} :
    read json = .ok page ↔
      ∃ content contents, Envelops json content ∧
        Contents.format.read content = .ok contents ∧
        contents.page = page := by
  rw [read, bind_eq_ok_iff]
  constructor
  · rintro ⟨received, envelopeRead, kept⟩
    cases received with
    | none => simp at kept
    | some contents =>
        obtain ⟨content, envelops, contentsRead⟩ :=
          envelope_read_eq_ok_iff.mp envelopeRead
        exact ⟨content, contents, envelops, contentsRead, Except.ok.inj kept⟩
  · rintro ⟨content, contents, envelops, contentsRead, rfl⟩
    exact ⟨some contents,
      envelope_read_eq_ok_iff.mpr ⟨content, envelops, contentsRead⟩, rfl⟩

theorem TellsCount.exists_word {given : Option Json} {count : Option Nat}
    (tells : TellsCount given count) :
    ∃ word : Option UInt64, word.map UInt64.toNat = count := by
  cases tells with
  | missing => exact ⟨none, rfl⟩
  | null => exact ⟨none, rfl⟩
  | @number count bound =>
      refine ⟨some (UInt64.ofNat count), ?_⟩
      rw [Option.map_some, UInt64.toNat_ofNat_of_lt' bound]

theorem HasContents.exists_contents {json : Json} {count : Option Nat}
    {records : List Json} (has : HasContents json count records) :
    ∃ contents : Contents, contents.count.map UInt64.toNat = count ∧
      contents.results = records := by
  have tells : ∃ given, TellsCount given count := by
    cases has with
    | object tells holds => exact ⟨_, tells⟩
    | list few tells holds => exact ⟨_, tells⟩
  obtain ⟨given, tellsCount⟩ := tells
  obtain ⟨word, same⟩ := tellsCount.exists_word
  exact ⟨⟨word, records⟩, same, rfl⟩

/-- A response is read exactly if it is an envelope with contents.  The page has
the records as they are, and the number of results that is told, or else that
of the records.  Members with other names change nothing in the envelope or in
the contents. -/
theorem read_eq_ok_iff_in_format :
    (∀ json page, read json = .ok page ↔
      ∃ content count, Envelops json content ∧
        HasContents content count page.items ∧
        page.total = count.getD page.items.length) ∧
    (∀ members, read (.object members) =
      read (.object (members.filter fun member => member.1 = "d"))) ∧
    ∀ members, Contents.format.read (.object members) =
      Contents.format.read (.object (members.filter fun member =>
        member.1 = "__count" ∨ member.1 = "results")) := by
  refine ⟨?_, ?_, ?_⟩
  · intro json page
    rw [read_eq_ok_iff_exists_envelops]
    constructor
    · rintro ⟨content, contents, envelops, read, rfl⟩
      exact ⟨content, contents.count.map UInt64.toNat, envelops,
        Contents.read_eq_ok_iff_hasContents.mp read, contents.total_page⟩
    · rintro ⟨content, count, envelops, has, total⟩
      obtain ⟨contents, rfl, results⟩ := has.exists_contents
      refine ⟨content, contents, envelops,
        Contents.read_eq_ok_iff_hasContents.mpr (results ▸ has), ?_⟩
      obtain ⟨number, items⟩ := page
      obtain rfl : contents.results = items := results
      obtain rfl : number = contents.page.total :=
        total.trans contents.total_page.symm
      rfl
  · intro members
    have reading := envelope.read_object_filter (fun name => name = "d")
      (by decide) members
    rw [read, read, reading]
    rfl
  · intro members
    exact (Contents.format.read_object_filter
      (fun name => name = "__count" ∨ name = "results")
      (by decide) members).symm

end Page

end ContentSearch
