import ContentSearch.Options.Reading
import ContentSearch.Proofs.Records
import Mathlib.Data.List.Forall2

/-!
# Grammars of JSON values

A grammar says which JSON values stand for which values of a type, and with
which fault every other JSON value is refused.  The fields of settings and of
options have six grammars: a text, a list of texts, a natural number, two
choices, and a written selection.  Each of them is put together from a few
general ones, and in options `null` may stand for the absence of a value.

This file states the grammars without the readers and shows that each reader
reads exactly its grammar.
-/

namespace ContentSearch

/-- A list with an element that fails after elements that all pass. -/
inductive FailsFirst {β : Type*} (passes fails : β → Prop) : List β → Prop
  | here {item : β} {rest : List β} (failed : fails item) :
      FailsFirst passes fails (item :: rest)
  | later {item : β} {rest : List β} (passed : passes item)
      (failed : FailsFirst passes fails rest) :
      FailsFirst passes fails (item :: rest)

namespace FailsFirst

variable {β : Type*} {passes fails : β → Prop} {items : List β}

/-- In a sorted list, the first element that fails is the smallest one. -/
theorem iff_of_pairwise {less : β → β → Prop}
    (asymm : ∀ {left right}, less left right → ¬ less right left)
    (sorted : items.Pairwise less) :
    FailsFirst passes fails items ↔
      ∃ item ∈ items, fails item ∧
        ∀ smaller ∈ items, less smaller item → passes smaller := by
  induction items with
  | nil =>
      refine iff_of_false ?_ (by simp)
      rintro ⟨⟩
  | cons head rest inductionHypothesis =>
      obtain ⟨headLess, restSorted⟩ := List.pairwise_cons.mp sorted
      have restIff := inductionHypothesis restSorted
      constructor
      · rintro (failed | ⟨passed, restFails⟩)
        · refine ⟨head, List.mem_cons_self, failed, ?_⟩
          intro smaller member isLess
          rcases List.mem_cons.mp member with rfl | member
          · exact absurd isLess (asymm isLess)
          · exact absurd isLess (asymm (headLess smaller member))
        · obtain ⟨item, member, failed, before⟩ := restIff.mp restFails
          refine ⟨item, List.mem_cons_of_mem head member, failed, ?_⟩
          intro smaller smallerMember isLess
          rcases List.mem_cons.mp smallerMember with rfl | smallerMember
          · exact passed
          · exact before smaller smallerMember isLess
      · rintro ⟨item, member, failed, before⟩
        rcases List.mem_cons.mp member with rfl | member
        · exact .here failed
        · have passed := before head List.mem_cons_self (headLess item member)
          refine .later passed (restIff.mpr ⟨item, member, failed, ?_⟩)
          intro smaller smallerMember
          exact before smaller (List.mem_cons_of_mem head smallerMember)

end FailsFirst

/-- Which JSON values stand for which values, and the faults of all others. -/
structure Grammar (α : Type) where
  Accepts : Json → α → Prop
  Refuses : Json → ReadError → Prop

namespace Grammar

variable {α β : Type}

/-- The reader returns the values that the grammar accepts and the faults with
which it refuses. -/
structure IsReadBy (grammar : Grammar α) (read : Json → Except ReadError α) :
    Prop where
  ok_iff : ∀ {json value}, read json = .ok value ↔ grammar.Accepts json value
  error_iff : ∀ {json fault},
    read json = .error fault ↔ grammar.Refuses json fault

namespace IsReadBy

variable {grammar : Grammar α} {read : Json → Except ReadError α}

theorem accepts_unique (isRead : grammar.IsReadBy read) {json : Json}
    {left right : α} (isLeft : grammar.Accepts json left)
    (isRight : grammar.Accepts json right) : left = right := by
  have readLeft := isRead.ok_iff.mpr isLeft
  have readRight := isRead.ok_iff.mpr isRight
  exact Except.ok.inj (readLeft.symm.trans readRight)

end IsReadBy

def text : Grammar String where
  Accepts json value := json = .text value
  Refuses json fault :=
    (∀ value, json ≠ .text value) ∧ fault = .wrongType json.found .text

theorem text_isReadBy : text.IsReadBy Json.readText where
  ok_iff {json value} := by
    cases json <;> simp [Json.readText, text]
  error_iff {json fault} := by
    cases json <;> simp [Json.readText, text, eq_comm]

/-- The faults of a value that is no natural number of sixty-four bits. -/
inductive RefusesNatural : Json → ReadError → Prop
  | outOfRange {number : Int} (outside : number < 0 ∨ UInt64.size ≤ number) :
      RefusesNatural (.integer number) (.outOfRange number)
  | wrongType {json : Json} (noInteger : ∀ number, json ≠ .integer number) :
      RefusesNatural json (.wrongType json.found .natural)

def natural : Grammar UInt64 where
  Accepts json number := json = .integer number.toNat
  Refuses := RefusesNatural

theorem readNatural_eq_error_iff {json : Json} {fault : ReadError} :
    json.readNatural = .error fault ↔ RefusesNatural json fault := by
  cases json with
  | integer number =>
      rw [Json.readNatural]
      split
      case isTrue inside =>
        refine iff_of_false (by simp) ?_
        rintro (outside | noInteger)
        · omega
        · exact noInteger number rfl
      case isFalse outside =>
        rw [Except.error.injEq]
        constructor
        · rintro rfl
          exact .outOfRange (by omega)
        · rintro (_ | noInteger)
          · rfl
          · exact absurd rfl (noInteger number)
  | _ =>
      constructor
      · rintro ⟨⟩
        exact .wrongType (by simp)
      · rintro ⟨⟩
        rfl

theorem natural_isReadBy : natural.IsReadBy Json.readNatural where
  ok_iff := Json.readNatural_eq_ok_iff
  error_iff := readNatural_eq_error_iff

/-- The faults of a value that is no list of values of the grammar.  In a list,
the first element that is refused is at fault. -/
inductive RefusesList (grammar : Grammar α) : Json → ReadError → Prop
  | element {items : List Json} {fault : ReadError}
      (failed : FailsFirst (fun item => ∃ value, grammar.Accepts item value)
        (grammar.Refuses · fault) items) :
      RefusesList grammar (.list items) fault
  | wrongType {json : Json} (noList : ∀ items, json ≠ .list items) :
      RefusesList grammar json (.wrongType json.found .list)

def listOf (grammar : Grammar α) : Grammar (List α) where
  Accepts json values :=
    ∃ items, json = .list items ∧ List.Forall₂ grammar.Accepts items values
  Refuses := RefusesList grammar

namespace IsReadBy

variable {grammar : Grammar α} {read : Json → Except ReadError α}

theorem mapM_eq_ok_iff (isRead : grammar.IsReadBy read) {items : List Json}
    {values : List α} :
    items.mapM read = .ok values ↔
      List.Forall₂ grammar.Accepts items values := by
  induction items generalizing values with
  | nil =>
      rw [List.mapM_nil, List.forall₂_nil_left_iff]
      exact (Except.ok.injEq [] values).to_iff.trans eq_comm
  | cons item rest inductionHypothesis =>
      rw [List.mapM_cons, bind_eq_ok_iff]
      constructor
      · rintro ⟨value, first, others⟩
        obtain ⟨more, restRead, kept⟩ := bind_eq_ok_iff.mp others
        obtain rfl := Except.ok.inj kept
        exact .cons (isRead.ok_iff.mp first) (inductionHypothesis.mp restRead)
      · rintro (_ | ⟨first, others⟩)
        refine ⟨_, isRead.ok_iff.mpr first, ?_⟩
        rw [inductionHypothesis.mpr others]
        rfl

theorem mapM_eq_error_iff (isRead : grammar.IsReadBy read)
    {items : List Json} {fault : ReadError} :
    items.mapM read = .error fault ↔
      FailsFirst (fun item => ∃ value, grammar.Accepts item value)
        (grammar.Refuses · fault) items := by
  induction items with
  | nil =>
      refine iff_of_false ?_ ?_
      · rintro ⟨⟩
      · rintro ⟨⟩
  | cons item rest inductionHypothesis =>
      have others (value : α) : (do
            let values ← rest.mapM read
            pure (value :: values)) = Except.error fault ↔
          rest.mapM read = .error fault := by
        rw [bind_eq_error_iff]
        simp [pure, Except.pure]
      rw [List.mapM_cons, bind_eq_error_iff]
      simp only [others, inductionHypothesis]
      constructor
      · rintro (first | ⟨value, first, failed⟩)
        · exact .here (isRead.error_iff.mp first)
        · exact .later ⟨value, isRead.ok_iff.mp first⟩ failed
      · rintro (refused | ⟨⟨value, accepted⟩, failed⟩)
        · exact .inl (isRead.error_iff.mpr refused)
        · exact .inr ⟨value, isRead.ok_iff.mpr accepted, failed⟩

end IsReadBy

/-- A list of texts is read element by element. -/
theorem listOf_text_isReadBy : (listOf text).IsReadBy Json.readTexts where
  ok_iff {json values} := by
    cases json with
    | list items =>
        refine text_isReadBy.mapM_eq_ok_iff.trans ?_
        simp [listOf]
    | _ =>
        refine iff_of_false ?_ ?_
        · rintro ⟨⟩
        · rintro ⟨_, ⟨⟩, _⟩
  error_iff {json fault} := by
    cases json with
    | list items =>
        refine text_isReadBy.mapM_eq_error_iff.trans ?_
        constructor
        · exact .element
        · rintro (failed | noList)
          · exact failed
          · exact absurd rfl (noList items)
    | _ =>
        constructor
        · rintro ⟨⟩
          exact .wrongType (by simp)
        · rintro ⟨⟩
          rfl

/-- The faults of a value that does not give one of the names. -/
inductive RefusesChoice (names : List String) : Json → ReadError → Prop
  | unknownText {name : String} (unknown : name ∉ names) :
      RefusesChoice names (.text name) (.unknownChoice name names)
  | unknownMember {name : String} (content : Json) (unknown : name ∉ names) :
      RefusesChoice names (.object [(name, content)])
        (.unknownChoice name names)
  | content {name : String} {content : Json} (known : name ∈ names)
      (notNull : content ≠ .null) :
      RefusesChoice names (.object [(name, content)])
        (.wrongType content.found .nothing)
  | members {members : List (String × Json)} (notSingle : members.length ≠ 1) :
      RefusesChoice names (.object members) .notSingleMember
  | wrongType {json : Json} (noText : ∀ name, json ≠ .text name)
      (noObject : ∀ members, json ≠ .object members) :
      RefusesChoice names json (.wrongType json.found .choice)

/-- A choice: its name, or an object whose only member has this name and the
value `null`. -/
def choice (choices : List (String × α)) : Grammar α where
  Accepts json value := ∃ name, (name, value) ∈ choices ∧
    (json = .text name ∨ json = .object [(name, .null)])
  Refuses := RefusesChoice (choices.map Prod.fst)

section Choices

variable {choices : List (String × α)}

theorem choose_eq_ok_iff (distinct : (choices.map Prod.fst).Nodup)
    {name : String} {value : α} :
    Json.choose choices name = .ok value ↔ (name, value) ∈ choices := by
  have found : Json.choose choices name = .ok value ↔
      choices.lookup name = some value := by
    unfold Json.choose
    split <;> simp [*]
  rw [found, List.lookup_eq_some_iff]
  constructor
  · rintro ⟨before, after, rfl, -⟩
    simp
  · intro member
    obtain ⟨before, after, rfl⟩ := List.append_of_mem member
    refine ⟨before, after, rfl, ?_⟩
    rintro ⟨other, otherValue⟩ earlier
    rw [List.map_append] at distinct
    have apart := (List.nodup_append.mp distinct).2.2 other
      (List.mem_map_of_mem earlier) name (by simp)
    simpa using apart.symm

theorem choose_eq_error_iff {name : String} {fault : ReadError} :
    Json.choose choices name = .error fault ↔
      name ∉ choices.map Prod.fst ∧
        fault = .unknownChoice name (choices.map Prod.fst) := by
  have unknown : choices.lookup name = none ↔
      name ∉ choices.map Prod.fst := by
    rw [List.lookup_eq_none_iff, List.mem_map, not_exists]
    refine forall_congr' fun other => ?_
    rw [not_and, bne_iff_ne, ne_comm]
  rw [← unknown]
  unfold Json.choose
  split <;> simp [*, eq_comm]

theorem refusesChoice_members_iff {names : List String}
    {members : List (String × Json)} {fault : ReadError}
    (notSingle : members.length ≠ 1) :
    RefusesChoice names (.object members) fault ↔
      fault = .notSingleMember := by
  constructor
  · intro refused
    cases refused with
    | unknownMember _ unknown => exact absurd rfl notSingle
    | content known notNull => exact absurd rfl notSingle
    | members => rfl
    | wrongType _ noObject => exact absurd rfl (noObject members)
  · rintro rfl
    exact .members notSingle

theorem readChoice_eq_ok_iff (distinct : (choices.map Prod.fst).Nodup)
    {json : Json} {value : α} :
    Json.readChoice choices json = .ok value ↔
      (choice choices).Accepts json value := by
  cases json with
  | text name =>
      refine (choose_eq_ok_iff distinct).trans ?_
      simp [choice]
  | object members =>
      rcases members with _ | ⟨⟨name, content⟩, _ | ⟨next, rest⟩⟩
      · simp [Json.readChoice, choice]
      · rw [Json.readChoice, bind_eq_ok_iff]
        simp only [choose_eq_ok_iff distinct]
        cases content <;> simp [choice]
      · simp [Json.readChoice, choice]
  | _ => simp [Json.readChoice, choice]

theorem readChoice_eq_error_iff (distinct : (choices.map Prod.fst).Nodup)
    {json : Json} {fault : ReadError} :
    Json.readChoice choices json = .error fault ↔
      RefusesChoice (choices.map Prod.fst) json fault := by
  cases json with
  | text name =>
      refine choose_eq_error_iff.trans ?_
      constructor
      · rintro ⟨unknown, rfl⟩
        exact .unknownText unknown
      · intro refused
        cases refused with
        | unknownText unknown => exact ⟨unknown, rfl⟩
        | wrongType noText => exact absurd rfl (noText name)
  | object members =>
      rcases members with _ | ⟨⟨name, content⟩, _ | ⟨next, rest⟩⟩
      · rw [refusesChoice_members_iff (by simp)]
        exact (Except.error.injEq _ fault).to_iff.trans eq_comm
      · rw [Json.readChoice, bind_eq_error_iff, choose_eq_error_iff]
        constructor
        · rintro (⟨unknown, rfl⟩ | ⟨value, known, failed⟩)
          · exact .unknownMember content unknown
          · rw [choose_eq_ok_iff distinct] at known
            split at failed
            case h_1 => cases failed
            case h_2 notNull =>
              obtain rfl := Except.error.inj failed
              exact .content (List.mem_map_of_mem known) notNull
        · intro refused
          cases refused with
          | unknownMember _ unknown => exact .inl ⟨unknown, rfl⟩
          | content known notNull =>
              obtain ⟨⟨_, value⟩, member, rfl⟩ := List.mem_map.mp known
              refine .inr ⟨value, (choose_eq_ok_iff distinct).mpr member, ?_⟩
              split
              · contradiction
              · rfl
          | members notSingle => exact absurd rfl notSingle
          | wrongType _ noObject => exact absurd rfl (noObject _)
      · rw [refusesChoice_members_iff (by simp)]
        exact (Except.error.injEq _ fault).to_iff.trans eq_comm
  | _ =>
      constructor
      · rintro ⟨⟩
        exact .wrongType (by simp) (by simp)
      · rintro ⟨⟩
        rfl

theorem choice_isReadBy (distinct : (choices.map Prod.fst).Nodup) :
    (choice choices).IsReadBy (Json.readChoice choices) where
  ok_iff := readChoice_eq_ok_iff distinct
  error_iff := readChoice_eq_error_iff distinct

end Choices

theorem metadata_isReadBy :
    (choice Metadata.choices).IsReadBy (Json.readChoice Metadata.choices) :=
  choice_isReadBy (by decide)

theorem inlineCount_isReadBy :
    (choice InlineCount.choices).IsReadBy
      (Json.readChoice InlineCount.choices) :=
  choice_isReadBy (by decide)

def map (apply : α → β) (grammar : Grammar α) : Grammar β where
  Accepts json result := ∃ value, grammar.Accepts json value ∧
    apply value = result
  Refuses := grammar.Refuses

/-- The values of the grammar, or `null` in the place of a value. -/
def optional (grammar : Grammar α) : Grammar (Option α) where
  Accepts json result := json = .null ∧ result = none ∨
    json ≠ .null ∧ ∃ value, grammar.Accepts json value ∧ some value = result
  Refuses json fault := json ≠ .null ∧ grammar.Refuses json fault

theorem IsReadBy.map {grammar : Grammar α}
    {read : Json → Except ReadError α} (isRead : grammar.IsReadBy read)
    (apply : α → β) :
    (grammar.map apply).IsReadBy fun json => (read json).map apply where
  ok_iff {json result} := by
    rw [map_eq_ok_iff]
    exact exists_congr fun value => and_congr_left' isRead.ok_iff
  error_iff {json fault} := by
    rw [map_eq_error_iff]
    exact isRead.error_iff

theorem readOptional_of_ne_null {read : Json → Except ReadError α}
    {json : Json} (notNull : json ≠ .null) :
    json.readOptional read = (read json).map some := by
  unfold Json.readOptional
  split
  · contradiction
  · rfl

theorem IsReadBy.optional {grammar : Grammar α}
    {read : Json → Except ReadError α} (isRead : grammar.IsReadBy read) :
    grammar.optional.IsReadBy (Json.readOptional read) where
  ok_iff {json result} := by
    by_cases isNull : json = .null
    · subst isNull
      simp [Json.readOptional, Grammar.optional, eq_comm]
    · rw [readOptional_of_ne_null isNull, map_eq_ok_iff]
      simp [Grammar.optional, isRead.ok_iff, isNull]
  error_iff {json fault} := by
    by_cases isNull : json = .null
    · subst isNull
      simp [Json.readOptional, Grammar.optional]
    · rw [readOptional_of_ne_null isNull, map_eq_error_iff, isRead.error_iff]
      simp [Grammar.optional, isNull]

end Grammar

end ContentSearch
