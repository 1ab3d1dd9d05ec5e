import ContentSearch.Literal
import ContentSearch.Proofs.Numerals

/-!
# Reading dates and times back

The numbers in the text of a date or of a time of day have different widths, but
each of them ends at the mark that follows it, and the sign of a year stands
before its digits.  So the numbers are read one after the other, and every date
is found again in its text.

What a text does not show is lost: a moment on a clock is known to the second
and a moment in universal time to the millisecond.  A leap second is shown as
the second after the one it follows.  So it is never mistaken for the second
before it; but only second sixty tells that there was a leap second.
-/

namespace ContentSearch

namespace Text

/-- The number at the start of the text, and what follows its digits. -/
def readNumber? (text : List Char) : Option (Nat × List Char) :=
  (readDigits? (text.takeWhile Char.isDigit)).map fun number =>
    (number, text.dropWhile Char.isDigit)

/-- What follows the mark at the start of the text. -/
def readMark? (mark : Char) : List Char → Option (List Char)
  | [] => none
  | character :: rest => if character = mark then some rest else none

@[simp]
theorem readMark?_cons (mark : Char) (rest : List Char) :
    readMark? mark (mark :: rest) = some rest :=
  if_pos rfl

/-- A padded number is read back if no digit follows it. -/
theorem readNumber?_padded_append (width number : Nat) {rest : List Char}
    (stops : ∀ character ∈ rest.head?, character.isDigit = false) :
    readNumber? (padded width number ++ rest) = some (number, rest) := by
  have digits : ∀ character ∈ padded width number,
      character.isDigit = true :=
    fun character member => isDigit_of_mem_padded member
  rw [readNumber?, takeWhile_append_of_stops digits stops,
    dropWhile_append_of_stops digits stops, readDigits?,
    if_pos ⟨padded_ne_nil width number, List.all_eq_true.mpr digits⟩,
    ofDigitChars_padded]
  rfl

theorem readSign_padded_append (width number : Nat) (rest : List Char) :
    readSign (padded width number ++ rest) =
      (false, padded width number ++ rest) := by
  obtain ⟨digit, others, split⟩ :=
    List.exists_cons_of_ne_nil (padded_ne_nil width number)
  have isDigit : digit.isDigit = true :=
    isDigit_of_mem_padded (split ▸ List.mem_cons_self)
  rw [split, List.cons_append]
  unfold readSign
  split
  case h_1 starts =>
    obtain ⟨rfl, -⟩ := List.cons.inj starts
    exact absurd isDigit (by decide)
  case h_2 starts =>
    obtain ⟨rfl, -⟩ := List.cons.inj starts
    exact absurd isDigit (by decide)
  case h_3 => rfl

theorem stops_nil :
    ∀ character ∈ ([] : List Char).head?, character.isDigit = false := by
  simp

/-- A mark that is no digit ends the number before it. -/
theorem stops_cons {mark : Char} (noDigit : mark.isDigit = false)
    (rest : List Char) :
    ∀ character ∈ (mark :: rest).head?, character.isDigit = false := by
  rintro _ ⟨⟩
  exact noDigit

end Text

namespace Date

/-- The year at the start of the text, and what follows it. -/
def readYear? (text : List Char) : Option (Int × List Char) :=
  let (negative, unsigned) := Text.readSign text
  (Text.readNumber? unsigned).map fun (number, rest) =>
    (Text.signed negative number, rest)

/-- The date at the start of the text, and what follows it. -/
def read? (text : List Char) : Option (Date × List Char) := do
  let (year, text) ← readYear? text
  let text ← Text.readMark? '-' text
  let (month, text) ← Text.readNumber? text
  let text ← Text.readMark? '-' text
  let (day, text) ← Text.readNumber? text
  let date ← of? year month day
  return (date, text)

theorem readSign_yearCharacters_append (year : Int) (rest : List Char) :
    Text.readSign (yearCharacters year ++ rest) =
      (decide (year < 0), Text.padded 4 year.natAbs ++ rest) := by
  unfold yearCharacters
  split
  case isTrue fourDigits =>
    rw [Text.readSign_padded_append, decide_eq_false (by omega)]
  case isFalse =>
    split
    case isTrue negative => rw [decide_eq_true negative]; rfl
    case isFalse notNegative => rw [decide_eq_false notNegative]; rfl

theorem readYear?_append (year : Int) {rest : List Char}
    (stops : ∀ character ∈ rest.head?, character.isDigit = false) :
    readYear? (yearCharacters year ++ rest) = some (year, rest) := by
  rw [readYear?, readSign_yearCharacters_append]
  dsimp only
  rw [Text.readNumber?_padded_append 4 _ stops, Option.map_some,
    Decimal.signed_natAbs]

theorem of?_fields (date : Date) :
    of? date.year date.month date.day = some date :=
  dif_pos ⟨date.firstYear_le, date.le_lastYear, date.day_pos, date.day_le⟩

/-- A date is read back from its text if no digit follows it. -/
theorem read?_append (date : Date) {rest : List Char}
    (stops : ∀ character ∈ rest.head?, character.isDigit = false) :
    read? (date.characters ++ rest) = some (date, rest) := by
  have hyphen := Text.stops_cons (show '-'.isDigit = false from rfl)
  unfold read? characters
  simp [readYear?_append _ (hyphen _),
    Text.readNumber?_padded_append 2 _ (hyphen _),
    Text.readNumber?_padded_append 2 _ stops, of?_fields]

theorem read?_characters (date : Date) :
    read? date.characters = some (date, []) := by
  have read := date.read?_append Text.stops_nil
  rwa [List.append_nil] at read

theorem characters_injective : Function.Injective characters := by
  intro first second sameText
  have read := first.read?_characters
  rw [sameText, second.read?_characters] at read
  exact (Prod.mk.inj (Option.some.inj read)).1.symm

end Date

structure ClockTime where
  hour : Nat
  minute : Nat
  second : Nat
  deriving DecidableEq

namespace ClockTime

/-- The time at the start of the text, and what follows it. -/
def read? (text : List Char) : Option (ClockTime × List Char) := do
  let (hour, text) ← Text.readNumber? text
  let text ← Text.readMark? ':' text
  let (minute, text) ← Text.readNumber? text
  let text ← Text.readMark? ':' text
  let (second, text) ← Text.readNumber? text
  return (⟨hour, minute, second⟩, text)

end ClockTime

namespace TimeOfDay

def shown (time : TimeOfDay) : ClockTime :=
  ⟨time.hour, time.minute, time.shownSecond⟩

theorem read?_append (time : TimeOfDay) {rest : List Char}
    (stops : ∀ character ∈ rest.head?, character.isDigit = false) :
    ClockTime.read? (time.characters ++ rest) = some (time.shown, rest) := by
  have colon := Text.stops_cons (show ':'.isDigit = false from rfl)
  unfold ClockTime.read? characters
  simp [Text.readNumber?_padded_append 2 _ (colon _),
    Text.readNumber?_padded_append 2 _ stops, shown]

theorem shownSecond_eq (time : TimeOfDay) :
    time.shownSecond =
      if nanosecondsPerSecond ≤ time.nanosecond then time.second + 1
      else time.second := by
  have nanosecondLt := time.nanosecond_lt
  rw [shownSecond]
  split
  case isTrue leap =>
    have whole : time.nanosecond / nanosecondsPerSecond = 1 := by
      simp only [nanosecondsPerSecond] at nanosecondLt leap ⊢
      omega
    rw [whole]
  case isFalse ordinary =>
    rw [Nat.div_eq_of_lt (not_le.mp ordinary), Nat.add_zero]

theorem shownSecond_eq_sixty_iff (time : TimeOfDay) :
    time.shownSecond = 60 ↔
      nanosecondsPerSecond ≤ time.nanosecond ∧ time.second = 59 := by
  have secondLt := time.second_lt
  rw [shownSecond_eq]
  split
  case isTrue leap =>
    rw [and_iff_right leap]
    omega
  case isFalse ordinary =>
    refine iff_of_false (by omega) ?_
    rintro ⟨leap, -⟩
    exact ordinary leap

theorem millisecond_eq (time : TimeOfDay) :
    time.millisecond =
      (if nanosecondsPerSecond ≤ time.nanosecond then
        time.nanosecond - nanosecondsPerSecond
      else time.nanosecond) / 1000000 := by
  have nanosecondLt := time.nanosecond_lt
  rw [millisecond]
  split
  case isTrue leap =>
    rw [Nat.mod_eq_sub_mod leap, Nat.mod_eq_of_lt (by omega)]
  case isFalse ordinary => rw [Nat.mod_eq_of_lt (not_le.mp ordinary)]

end TimeOfDay

namespace Moment

/-- The date and the time at the start of the text, and what follows them. -/
def read? (text : List Char) : Option (Date × ClockTime × List Char) := do
  let (date, text) ← Date.read? text
  let text ← Text.readMark? 'T' text
  let (time, text) ← ClockTime.read? text
  return (date, time, text)

/-- The date, the time and the milliseconds of a moment in universal time at the
start of the text, and what follows them. -/
def readUniversal? (text : List Char) :
    Option (Date × ClockTime × Nat × List Char) := do
  let (date, time, text) ← read? text
  let text ← Text.readMark? '.' text
  let (millisecond, text) ← Text.readNumber? text
  let text ← Text.readMark? 'Z' text
  return (date, time, millisecond, text)

theorem read?_append (moment : Moment) {rest : List Char}
    (stops : ∀ character ∈ rest.head?, character.isDigit = false) :
    read? (moment.characters ++ rest) =
      some (moment.date, moment.time.shown, rest) := by
  have letter := Text.stops_cons (show 'T'.isDigit = false from rfl)
  unfold read? characters
  simp [moment.date.read?_append (letter _), moment.time.read?_append stops]

theorem read?_characters (moment : Moment) :
    read? moment.characters = some (moment.date, moment.time.shown, []) := by
  have read := moment.read?_append Text.stops_nil
  rwa [List.append_nil] at read

theorem readUniversal?_append (moment : Moment) (rest : List Char) :
    readUniversal? (moment.universalCharacters ++ rest) =
      some (moment.date, moment.time.shown, moment.time.millisecond,
        rest) := by
  have point := Text.stops_cons (show '.'.isDigit = false from rfl)
  have letter := Text.stops_cons (show 'Z'.isDigit = false from rfl)
  unfold readUniversal? universalCharacters
  simp [moment.read?_append (point _),
    Text.readNumber?_padded_append 3 _ (letter _)]

/-- The moments agree in every field down to the second that is shown. -/
structure SameSecond (first second : Moment) : Prop where
  year : first.date.year = second.date.year
  month : first.date.month = second.date.month
  day : first.date.day = second.date.day
  hour : first.time.hour = second.time.hour
  minute : first.time.minute = second.time.minute
  shownSecond : first.time.shownSecond = second.time.shownSecond

theorem sameSecond_iff (first second : Moment) :
    first.SameSecond second ↔
      first.date = second.date ∧ first.time.shown = second.time.shown := by
  constructor
  · rintro ⟨year, month, day, hour, minute, shownSecond⟩
    refine ⟨?_, ?_⟩
    · have fields := first.date.of?_fields
      rw [year, month, day, second.date.of?_fields] at fields
      exact (Option.some.inj fields).symm
    · rw [TimeOfDay.shown, TimeOfDay.shown, hour, minute, shownSecond]
  · rintro ⟨sameDate, sameShown⟩
    obtain ⟨hour, minute, shownSecond⟩ := ClockTime.mk.inj sameShown
    exact ⟨by rw [sameDate], by rw [sameDate], by rw [sameDate], hour, minute,
      shownSecond⟩

theorem SameSecond.characters_eq {first second : Moment}
    (same : first.SameSecond second) :
    first.characters = second.characters := by
  have sameDate := ((sameSecond_iff first second).mp same).1
  rw [characters, characters, TimeOfDay.characters, TimeOfDay.characters,
    sameDate, same.hour, same.minute, same.shownSecond]

theorem characters_eq_iff_sameSecond (first second : Moment) :
    first.characters = second.characters ↔ first.SameSecond second := by
  constructor
  · intro sameText
    have read := first.read?_characters
    rw [sameText, second.read?_characters] at read
    obtain ⟨sameDate, sameRest⟩ := Prod.mk.inj (Option.some.inj read)
    obtain ⟨sameShown, -⟩ := Prod.mk.inj sameRest
    exact (sameSecond_iff first second).mpr ⟨sameDate.symm, sameShown.symm⟩
  · exact SameSecond.characters_eq

theorem readUniversal?_universalCharacters (moment : Moment) :
    readUniversal? moment.universalCharacters =
      some (moment.date, moment.time.shown, moment.time.millisecond, []) := by
  have read := moment.readUniversal?_append []
  rwa [List.append_nil] at read

theorem universalCharacters_eq_iff (first second : Moment) :
    first.universalCharacters = second.universalCharacters ↔
      first.SameSecond second ∧
        first.time.millisecond = second.time.millisecond := by
  constructor
  · intro sameText
    have read := first.readUniversal?_universalCharacters
    rw [sameText, second.readUniversal?_universalCharacters] at read
    obtain ⟨sameDate, sameRest⟩ := Prod.mk.inj (Option.some.inj read)
    obtain ⟨sameShown, sameFraction⟩ := Prod.mk.inj sameRest
    exact ⟨(sameSecond_iff first second).mpr ⟨sameDate.symm, sameShown.symm⟩,
      (Prod.mk.inj sameFraction).1.symm⟩
  · rintro ⟨same, sameMillisecond⟩
    rw [universalCharacters, universalCharacters, same.characters_eq,
      sameMillisecond]

end Moment

/-- Dates and moments are read back from the texts of their literals, with the
precision that the texts show: a date as it is, a moment on a clock to the
second and a moment in universal time to the millisecond.  So two such texts are
the same exactly if the literals agree to this precision.  The second that is
shown is one more in a leap second, and is sixty exactly in a leap second after
second fifty-nine. -/
theorem Literal.read_and_characters_eq_iff_of_dates_and_moments :
    (∀ day : Date, Date.read? (date day).characters = some (day, [])) ∧
    (∀ moment, Moment.read? (wallClock moment).characters =
      some (moment.date, moment.time.shown, [])) ∧
    (∀ moment, Moment.readUniversal? (instant moment).characters =
      some (moment.date, moment.time.shown, moment.time.millisecond, [])) ∧
    (∀ first second, (date first).characters = (date second).characters ↔
      first = second) ∧
    (∀ first second,
      (wallClock first).characters = (wallClock second).characters ↔
        first.SameSecond second) ∧
    (∀ first second,
      (instant first).characters = (instant second).characters ↔
        first.SameSecond second ∧
          first.time.millisecond = second.time.millisecond) ∧
    ∀ time : TimeOfDay,
      (time.shownSecond = if nanosecondsPerSecond ≤ time.nanosecond then
          time.second + 1
        else time.second) ∧
      (time.shownSecond = 60 ↔
        nanosecondsPerSecond ≤ time.nanosecond ∧ time.second = 59) ∧
      time.millisecond =
        (if nanosecondsPerSecond ≤ time.nanosecond then
          time.nanosecond - nanosecondsPerSecond
        else time.nanosecond) / 1000000 :=
  ⟨Date.read?_characters, Moment.read?_characters,
    Moment.readUniversal?_universalCharacters,
    fun _ _ => Date.characters_injective.eq_iff,
    Moment.characters_eq_iff_sameSecond, Moment.universalCharacters_eq_iff,
    fun time => ⟨time.shownSecond_eq, time.shownSecond_eq_sixty_iff,
      time.millisecond_eq⟩⟩

/-- A leap second after second four is not shown as second sixty: it is written
like second five. -/
theorem Literal.leap_second_written_as_next_second :
    ¬ ∀ first second : Moment,
      (wallClock first).characters = (wallClock second).characters ↔
        first.date.year = second.date.year ∧
        first.date.month = second.date.month ∧
        first.date.day = second.date.day ∧
        first.time.hour = second.time.hour ∧
        first.time.minute = second.time.minute ∧
        (if nanosecondsPerSecond ≤ first.time.nanosecond then 60
          else first.time.second) =
        if nanosecondsPerSecond ≤ second.time.nanosecond then 60
          else second.time.second := by
  intro toldApart
  let day : Date :=
    ⟨2016, 12, 31, by decide, by decide, by decide, by decide⟩
  let leap : TimeOfDay :=
    ⟨23, 56, 4, 1333333333, by decide, by decide, by decide, by decide⟩
  let next : TimeOfDay :=
    ⟨23, 56, 5, 333333333, by decide, by decide, by decide, by decide⟩
  have sameShown : leap.shownSecond = next.shownSecond := by
    simp [TimeOfDay.shownSecond, nanosecondsPerSecond, leap, next]
  have sameText : (wallClock ⟨day, leap⟩).characters =
      (wallClock ⟨day, next⟩).characters :=
    Moment.SameSecond.characters_eq ⟨rfl, rfl, rfl, rfl, rfl, sameShown⟩
  obtain ⟨-, -, -, -, -, sameSecond⟩ := (toldApart _ _).mp sameText
  have differs : (60 : Nat) ≠ 5 := by decide
  exact differs sameSecond

end ContentSearch
