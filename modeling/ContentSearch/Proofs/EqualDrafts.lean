import ContentSearch.Clause.Text
import ContentSearch.Draft
import ContentSearch.Proofs.Numerals
import ContentSearch.Proofs.Quotation
import ContentSearch.Proofs.Tokens
import Mathlib.Data.List.Forall2

/-!
# The texts of equal drafts

Drafts are compared clause by clause, down into nested queries, and numbers are
compared as numbers: two drafts are equal exactly if they are the same once
every number is brought to its shortest stored form.

A query is written with the stored digits of its numbers, so equal drafts can
have different texts.  They have one text exactly if the numbers of the one are
written like the numbers of the other, in the order of writing.
-/

namespace ContentSearch

namespace Literal

/-- Changes the literal if it is a number. -/
def mapNumber (change : Decimal → Decimal) : Literal → Literal
  | number value => number (change value)
  | literal => literal

def numbers : Literal → List Decimal
  | number value => [value]
  | _ => []

theorem numbers_mapNumber (change : Decimal → Decimal) (literal : Literal) :
    (literal.mapNumber change).numbers = literal.numbers.map change := by
  cases literal <;> rfl

theorem same_iff (first second : Literal) :
    first.same second = true ↔
      first.mapNumber Decimal.reduced = second.mapNumber Decimal.reduced := by
  cases first <;> cases second <;> simp [same, mapNumber, Decimal.same]

/-- Only numbers can be equal and stored differently. -/
theorem eq_or_eq_number_of_mapNumber_eq {first second : Literal}
    (equal :
      first.mapNumber Decimal.reduced = second.mapNumber Decimal.reduced) :
    (first = second ∧ first.numbers = []) ∨
      ∃ value other : Decimal, first = number value ∧ second = number other ∧
        value.value = other.value := by
  cases first with
  | number value =>
      cases second with
      | number other =>
          have values : value.value = other.value :=
            (value.reduced_eq_iff_value_eq other).mp (number.inj equal)
          exact .inr ⟨value, other, rfl, rfl, values⟩
      | _ => simp [mapNumber] at equal
  | _ =>
      left
      cases second <;> simp_all [mapNumber, numbers]

end Literal

namespace Bound

def mapNumber (change : Decimal → Decimal) (bound : Bound) : Bound :=
  ⟨bound.value.mapNumber change, bound.inclusive⟩

theorem same_iff (first second : Bound) :
    first.same second = true ↔
      first.mapNumber Decimal.reduced = second.mapNumber Decimal.reduced := by
  simp [same, mapNumber, Literal.same_iff]

end Bound

namespace Condition

def mapNumbers (change : Decimal → Decimal) : Condition → Condition
  | equal field value => equal field (value.mapNumber change)
  | different field value => different field (value.mapNumber change)
  | range field lower upper =>
      range field (lower.mapNumber change) (upper.mapNumber change)
  | above field bound => above field (bound.mapNumber change)
  | below field bound => below field (bound.mapNumber change)
  | condition => condition

def numbers : Condition → List Decimal
  | equal _ value | different _ value => value.numbers
  | range _ lower upper => lower.value.numbers ++ upper.value.numbers
  | above _ bound | below _ bound => bound.value.numbers
  | _ => []

theorem numbers_mapNumbers (change : Decimal → Decimal)
    (condition : Condition) :
    (condition.mapNumbers change).numbers = condition.numbers.map change := by
  cases condition <;>
    simp [mapNumbers, numbers, Bound.mapNumber, Literal.numbers_mapNumber]

theorem same_iff (first second : Condition) :
    first.same second = true ↔
      first.mapNumbers Decimal.reduced = second.mapNumbers Decimal.reduced := by
  cases first <;> cases second <;>
    simp [same, mapNumbers, Literal.same_iff, Bound.same_iff, and_assoc]

end Condition

namespace Clause

mutual

def mapNumbers (change : Decimal → Decimal) : Clause → Clause
  | condition restriction => condition (restriction.mapNumbers change)
  | nested inner => nested (listMapNumbers change inner)
  | negated inner => negated (listMapNumbers change inner)
  | connective joint => connective joint
  | modifier adjustment => modifier adjustment

/-- Changes every number of a sequence of clauses, at any depth. -/
def listMapNumbers (change : Decimal → Decimal) : List Clause → List Clause
  | [] => []
  | clause :: rest => clause.mapNumbers change :: listMapNumbers change rest

end

mutual

def numbers : Clause → List Decimal
  | condition restriction => restriction.numbers
  | nested inner | negated inner => listNumbers inner
  | connective _ | modifier _ => []

/-- The numbers of a sequence of clauses in the order of writing. -/
def listNumbers : List Clause → List Decimal
  | [] => []
  | clause :: rest => clause.numbers ++ listNumbers rest

end

mutual

theorem numbers_mapNumbers (change : Decimal → Decimal) : ∀ clause : Clause,
    (clause.mapNumbers change).numbers = clause.numbers.map change
  | condition restriction => restriction.numbers_mapNumbers change
  | nested inner => listNumbers_listMapNumbers change inner
  | negated inner => listNumbers_listMapNumbers change inner
  | connective _ => rfl
  | modifier _ => rfl

theorem listNumbers_listMapNumbers (change : Decimal → Decimal) :
    ∀ clauses : List Clause,
      listNumbers (listMapNumbers change clauses) =
        (listNumbers clauses).map change
  | [] => rfl
  | clause :: rest => by
      rw [listMapNumbers, listNumbers, listNumbers, List.map_append,
        numbers_mapNumbers change clause,
        listNumbers_listMapNumbers change rest]

end

mutual

theorem same_iff : ∀ first second : Clause,
    first.same second = true ↔
      first.mapNumbers Decimal.reduced = second.mapNumbers Decimal.reduced
  | condition restriction, second => by
      cases second <;> simp [same, mapNumbers, Condition.same_iff]
  | nested inner, second => by
      cases second <;> simp [same, mapNumbers, sameList_iff inner]
  | negated inner, second => by
      cases second <;> simp [same, mapNumbers, sameList_iff inner]
  | connective _, second => by
      cases second <;> simp [same, mapNumbers]
  | modifier _, second => by
      cases second <;> simp [same, mapNumbers]

theorem sameList_iff : ∀ first second : List Clause,
    sameList first second = true ↔
      listMapNumbers Decimal.reduced first =
        listMapNumbers Decimal.reduced second
  | [], second => by
      cases second <;> simp [sameList, listMapNumbers]
  | clause :: rest, second => by
      cases second with
      | nil => simp [sameList, listMapNumbers]
      | cons other others =>
          simp [sameList, listMapNumbers, same_iff clause other,
            sameList_iff rest others]

end

end Clause

theorem Draft.same_iff {stage : Stage} (first second : Draft stage) :
    first.same second = true ↔
      first.fault = second.fault ∧
        Clause.listMapNumbers Decimal.reduced first.clauses =
          Clause.listMapNumbers Decimal.reduced second.clauses := by
  rw [Draft.same, Bool.and_eq_true, beq_iff_eq, Clause.sameList_iff, and_comm]

/-- The numbers in two texts settle whether the texts are the same.  No mark
stands between the texts of two clauses, so this has to hold whatever follows
them: a longer text of one number must not be made up for by what stands behind
the other. -/
structure SettledByNumbers (first second : List Char)
    (numbers others : List Decimal) : Prop where
  length_eq : numbers.length = others.length
  append_eq_iff : ∀ rest after : List Char,
    first ++ rest = second ++ after ↔
      List.Forall₂ Decimal.WrittenAlike numbers others ∧ rest = after

namespace SettledByNumbers

theorem forall₂_append_iff {α β : Type} {relation : α → β → Prop}
    {first rest : List α} {second others : List β}
    (length : first.length = second.length) :
    List.Forall₂ relation (first ++ rest) (second ++ others) ↔
      List.Forall₂ relation first second ∧
        List.Forall₂ relation rest others := by
  induction first generalizing second with
  | nil =>
      obtain rfl : second = [] := List.length_eq_zero_iff.mp length.symm
      simp
  | cons item items inductionHypothesis =>
      cases second with
      | nil => simp at length
      | cons other otherItems =>
          have shorter : items.length = otherItems.length := by
            simpa using length
          simp [inductionHypothesis shorter, and_assoc]

theorem withoutNumbers (text : List Char) : SettledByNumbers text text [] [] :=
  ⟨rfl, by simp⟩

theorem append {first second more further : List Char}
    {numbers others moreNumbers furtherNumbers : List Decimal}
    (settled : SettledByNumbers first second numbers others)
    (settledMore : SettledByNumbers more further moreNumbers furtherNumbers) :
    SettledByNumbers (first ++ more) (second ++ further)
      (numbers ++ moreNumbers) (others ++ furtherNumbers) where
  length_eq := by
    rw [List.length_append, List.length_append, settled.length_eq,
      settledMore.length_eq]
  append_eq_iff := by
    intro rest after
    rw [List.append_assoc, List.append_assoc, settled.append_eq_iff,
      settledMore.append_eq_iff, forall₂_append_iff settled.length_eq,
      and_assoc]

theorem prepend {first second : List Char} {numbers others : List Decimal}
    (before : List Char)
    (settled : SettledByNumbers first second numbers others) :
    SettledByNumbers (before ++ first) (before ++ second) numbers others :=
  (withoutNumbers before).append settled

theorem followedBy {first second : List Char} {numbers others : List Decimal}
    (settled : SettledByNumbers first second numbers others)
    (behind : List Char) :
    SettledByNumbers (first ++ behind) (second ++ behind) numbers others := by
  simpa using settled.append (withoutNumbers behind)

theorem texts_eq_iff {first second : List Char} {numbers others : List Decimal}
    (settled : SettledByNumbers first second numbers others) :
    first = second ↔ List.Forall₂ Decimal.WrittenAlike numbers others := by
  simpa using settled.append_eq_iff [] []

end SettledByNumbers

theorem Literal.quote_notMem_number (value : Decimal) :
    '\'' ∉ (number value).characters := by
  intro member
  have plain := List.all_eq_true.mp value.isPlain_characters '\'' member
  exact absurd plain (by decide)

/-- A number has no quote in its text, so reading up to the closing quote finds
the whole number. -/
theorem Decimal.settledByNumbers_quoted {first second : Decimal}
    (sameValue : first.value = second.value) :
    SettledByNumbers (Literal.number first).quoted
      (Literal.number second).quoted [first] [second] where
  length_eq := rfl
  append_eq_iff := by
    intro rest after
    have writtenAlike := characters_eq_iff_writtenAlike sameValue
    rw [List.forall₂_cons, and_iff_left List.Forall₂.nil]
    constructor
    · intro texts
      have read := congrArg Text.readLiteral texts
      rw [Text.readLiteral_append rest (Literal.quote_notMem_number first),
        Text.readLiteral_append after (Literal.quote_notMem_number second),
        Option.some_inj, Prod.mk.injEq] at read
      obtain ⟨literals, rests⟩ := read
      have characters := congrArg Literal.characters literals
      rw [Literal.characters_plain, Literal.characters_plain] at characters
      exact ⟨writtenAlike.mp characters, rests⟩
    · rintro ⟨alike, rfl⟩
      have characters : (Literal.number first).characters =
          (Literal.number second).characters := writtenAlike.mpr alike
      rw [Literal.quoted, Literal.quoted, characters]

theorem Literal.settledByNumbers_quoted {first second : Literal}
    (equal :
      first.mapNumber Decimal.reduced = second.mapNumber Decimal.reduced) :
    SettledByNumbers first.quoted second.quoted first.numbers
      second.numbers := by
  rcases eq_or_eq_number_of_mapNumber_eq equal with
    ⟨rfl, noNumbers⟩ | ⟨value, other, rfl, rfl, sameValue⟩
  · rw [noNumbers]
    exact .withoutNumbers _
  · exact Decimal.settledByNumbers_quoted sameValue

theorem Bound.exists_settledByNumbers_quoted {first second : Bound}
    (reducedEq :
      first.mapNumber Decimal.reduced = second.mapNumber Decimal.reduced) :
    ∃ inclusive value other,
      first = ⟨value, inclusive⟩ ∧ second = ⟨other, inclusive⟩ ∧
        SettledByNumbers value.quoted other.quoted value.numbers
          other.numbers := by
  obtain ⟨value, inclusive⟩ := first
  obtain ⟨other, otherInclusive⟩ := second
  obtain ⟨values, rfl⟩ := Bound.mk.inj reducedEq
  exact ⟨inclusive, value, other, rfl, rfl,
    Literal.settledByNumbers_quoted values⟩

theorem Condition.settledByNumbers_characters {first second : Condition}
    (reducedEq :
      first.mapNumbers Decimal.reduced = second.mapNumbers Decimal.reduced) :
    SettledByNumbers first.characters second.characters first.numbers
      second.numbers := by
  cases first with
  | equal field value =>
      cases second with
      | equal otherField other =>
          obtain ⟨rfl, values⟩ := equal.inj reducedEq
          have settled := Literal.settledByNumbers_quoted values
          exact (settled.prepend [':']).prepend field.toList
      | _ => simp [mapNumbers] at reducedEq
  | different field value =>
      cases second with
      | different otherField other =>
          obtain ⟨rfl, values⟩ := different.inj reducedEq
          have settled := Literal.settledByNumbers_quoted values
          have compared := (settled.prepend [':']).prepend field.toList
          exact (compared.prepend "NOT(".toList).followedBy [')']
      | _ => simp [mapNumbers] at reducedEq
  | range field lower upper =>
      cases second with
      | range otherField otherLower otherUpper =>
          obtain ⟨rfl, lowers, uppers⟩ := range.inj reducedEq
          obtain ⟨_, _, _, rfl, rfl, lowerSettled⟩ :=
            Bound.exists_settledByNumbers_quoted lowers
          obtain ⟨_, _, _, rfl, rfl, upperSettled⟩ :=
            Bound.exists_settledByNumbers_quoted uppers
          have opened (bracket : Char) :=
            (lowerSettled.prepend [':', bracket]).prepend field.toList
          exact (((opened _).followedBy _).append upperSettled).followedBy _
      | _ => simp [mapNumbers] at reducedEq
  | above field bound =>
      cases second with
      | above otherField other =>
          obtain ⟨rfl, bounds⟩ := above.inj reducedEq
          obtain ⟨_, _, _, rfl, rfl, settled⟩ :=
            Bound.exists_settledByNumbers_quoted bounds
          exact settled.prepend _
      | _ => simp [mapNumbers] at reducedEq
  | below field bound =>
      cases second with
      | below otherField other =>
          obtain ⟨rfl, bounds⟩ := below.inj reducedEq
          obtain ⟨_, _, _, rfl, rfl, settled⟩ :=
            Bound.exists_settledByNumbers_quoted bounds
          exact settled.prepend _
      | _ => simp [mapNumbers] at reducedEq
  | _ =>
      cases second <;>
        simp_all [mapNumbers, numbers, SettledByNumbers.withoutNumbers]

namespace Clause

mutual

theorem settledByNumbers_characters : ∀ {first second : Clause},
    first.mapNumbers Decimal.reduced = second.mapNumbers Decimal.reduced →
    SettledByNumbers first.characters second.characters first.numbers
      second.numbers
  | condition restriction, second, reducedEq => by
      cases second with
      | condition other =>
          rw [mapNumbers, mapNumbers, condition.injEq] at reducedEq
          exact Condition.settledByNumbers_characters reducedEq
      | _ => simp [mapNumbers] at reducedEq
  | nested inner, second, reducedEq => by
      cases second with
      | nested other =>
          rw [mapNumbers, mapNumbers, nested.injEq] at reducedEq
          have settled := settledByNumbers_listCharacters reducedEq
          exact (settled.prepend ['(']).followedBy [')']
      | _ => simp [mapNumbers] at reducedEq
  | negated inner, second, reducedEq => by
      cases second with
      | negated other =>
          rw [mapNumbers, mapNumbers, negated.injEq] at reducedEq
          have settled := settledByNumbers_listCharacters reducedEq
          exact (settled.prepend "NOT(".toList).followedBy [')']
      | _ => simp [mapNumbers] at reducedEq
  | connective joint, second, reducedEq => by
      cases second with
      | connective other =>
          obtain rfl : joint = other := by
            simpa [mapNumbers] using reducedEq
          exact .withoutNumbers _
      | _ => simp [mapNumbers] at reducedEq
  | modifier adjustment, second, reducedEq => by
      cases second with
      | modifier other =>
          obtain rfl : adjustment = other := by
            simpa [mapNumbers] using reducedEq
          exact .withoutNumbers _
      | _ => simp [mapNumbers] at reducedEq

theorem settledByNumbers_listCharacters : ∀ {first second : List Clause},
    listMapNumbers Decimal.reduced first =
      listMapNumbers Decimal.reduced second →
    SettledByNumbers (listCharacters first) (listCharacters second)
      (listNumbers first) (listNumbers second)
  | [], second, reducedEq => by
      cases second with
      | nil => exact .withoutNumbers []
      | cons _ _ => simp [listMapNumbers] at reducedEq
  | clause :: rest, second, reducedEq => by
      cases second with
      | nil => simp [listMapNumbers] at reducedEq
      | cons other others =>
          rw [listMapNumbers, listMapNumbers, List.cons.injEq] at reducedEq
          exact (settledByNumbers_characters reducedEq.1).append
            (settledByNumbers_listCharacters reducedEq.2)

end

theorem listText_inj {first second : List Clause} :
    listText first = listText second ↔
      listCharacters first = listCharacters second :=
  String.ofList_inj

theorem forall₂_value_eq_listNumbers {first second : List Clause}
    (reducedEq : listMapNumbers Decimal.reduced first =
      listMapNumbers Decimal.reduced second) :
    List.Forall₂ (fun number other => number.value = other.value)
      (listNumbers first) (listNumbers second) := by
  have numbers := congrArg listNumbers reducedEq
  rw [listNumbers_listMapNumbers, listNumbers_listMapNumbers,
    ← List.forall₂_eq_eq_eq, List.forall₂_map_left_iff,
    List.forall₂_map_right_iff] at numbers
  exact numbers.imp fun number other =>
    (number.reduced_eq_iff_value_eq other).mp

end Clause

namespace Draft

/-- Equal drafts have the same fault, and the same clauses once their numbers
are brought to the shortest stored forms.  Corresponding numbers are equal, and
the texts are the same exactly if corresponding numbers are written alike. -/
theorem listText_eq_iff_writtenAlike {stage : Stage}
    (first second : Draft stage) (equal : first.same second = true) :
    first.fault = second.fault ∧
      Clause.listMapNumbers Decimal.reduced first.clauses =
        Clause.listMapNumbers Decimal.reduced second.clauses ∧
      List.Forall₂ (fun number other => number.value = other.value)
        (Clause.listNumbers first.clauses)
        (Clause.listNumbers second.clauses) ∧
      (Clause.listText first.clauses = Clause.listText second.clauses ↔
        List.Forall₂ Decimal.WrittenAlike (Clause.listNumbers first.clauses)
          (Clause.listNumbers second.clauses)) := by
  obtain ⟨sameFault, reducedEq⟩ := (same_iff first second).mp equal
  have settled := Clause.settledByNumbers_listCharacters reducedEq
  refine ⟨sameFault, reducedEq,
    Clause.forall₂_value_eq_listNumbers reducedEq, ?_⟩
  rw [Clause.listText_inj, settled.texts_eq_iff]

/-- Zero at any scale, and ten with its zero in the mantissa or in the scale,
have one text also inside an excluded range. -/
theorem listText_eq_of_ranges_to_ten :
    let first := empty.negate (empty.condition
      (.range "Index" (.included (.number ⟨0, 3⟩))
        (.excluded (.number ⟨10, 0⟩))))
    let second := empty.negate (empty.condition
      (.range "Index" (.included (.number ⟨0, 0⟩))
        (.excluded (.number ⟨1, -1⟩))))
    first.same second = true ∧
      Clause.listText first.clauses = Clause.listText second.clauses := by
  intro first second
  have zeros : (⟨0, 3⟩ : Decimal).same ⟨0, 0⟩ = true := by
    rw [Decimal.same_iff_value_eq]
    norm_num [Decimal.value]
  have tens : (⟨10, 0⟩ : Decimal).same ⟨1, -1⟩ = true := by
    rw [Decimal.same_iff_value_eq]
    norm_num [Decimal.value]
  have same : first.same second = true := by
    simp [first, second, Draft.same, negate, condition, empty, append,
      Condition.fault, Clause.sameList, Clause.same, Condition.same, Bound.same,
      Bound.included, Bound.excluded, Literal.same, zeros, tens]
  have alike : List.Forall₂ Decimal.WrittenAlike
      (Clause.listNumbers first.clauses) (Clause.listNumbers second.clauses) :=
    .cons (by decide) (.cons (by decide) .nil)
  exact ⟨same,
    (listText_eq_iff_writtenAlike first second same).2.2.2.mpr alike⟩

/-- One and one with a zero behind the point are equal but not written alike. -/
theorem listText_ne_of_one_and_one_point_zero :
    let first := empty.condition (.equal "A" (.number ⟨1, 0⟩))
    let second := empty.condition (.equal "A" (.number ⟨10, 1⟩))
    first.same second = true ∧ Clause.listText first.clauses = "A:'1'" ∧
      Clause.listText second.clauses = "A:'1.0'" := by
  intro first second
  have ones : (⟨1, 0⟩ : Decimal).same ⟨10, 1⟩ = true := by
    rw [Decimal.same_iff_value_eq]
    norm_num [Decimal.value]
  refine ⟨?_, by decide, by decide⟩
  simp [first, second, Draft.same, condition, empty, append, Condition.fault,
    Clause.sameList, Clause.same, Condition.same, Literal.same, ones]

end Draft

end ContentSearch
