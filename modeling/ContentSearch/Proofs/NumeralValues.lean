import ContentSearch.Literal
import ContentSearch.Proofs.Escaping
import ContentSearch.Proofs.Numerals
import Mathlib.Tactic.FieldSimp

/-!
# Values of numerals

A numeral is read from left to right: an optional sign, digits, optionally a
point with further digits, and optionally an exponent.  Its value is that of the
digits before the point, plus the digits after the point as a fraction, times
the power of ten.

Whatever the layout in which a decimal is written, its text is such a numeral,
and the value of the numeral is the number that the decimal denotes.  So numbers
with the same text are equal, and no character of a number has to be escaped.
-/

namespace ContentSearch

namespace Text

/-- The number with these digits before and after the point, times a power of
ten. -/
def pointedValue (whole fraction : List Char) (exponent : Int) : ℚ :=
  (Nat.ofDigitChars 10 whole 0 +
    Nat.ofDigitChars 10 fraction 0 / 10 ^ fraction.length) * 10 ^ exponent

/-- The value of a numeral without sign.  There are digits before the point,
and digits after it if there is a point. -/
def unsignedValue? (text : List Char) : Option ℚ :=
  let whole := text.takeWhile Char.isDigit
  let after := text.dropWhile Char.isDigit
  let (fraction, rest) := readFraction after
  if whole = [] ∨ fraction = [] ∧ after.head? = some '.' then
    none
  else
    (readExponent? rest).map (pointedValue whole fraction)

def numeralValue? (text : List Char) : Option ℚ :=
  let (negative, rest) := readSign text
  (unsignedValue? rest).map fun value => if negative then -value else value

/-- The digits on both sides of the point are those of the mantissa. -/
theorem pointedValue_eq (whole fraction : List Char) (exponent : Int) :
    pointedValue whole fraction exponent =
      (⟨Nat.ofDigitChars 10 (whole ++ fraction) 0,
        fraction.length - exponent⟩ : Decimal).value := by
  have mantissa : (Nat.ofDigitChars 10 (whole ++ fraction) 0 : ℚ) =
      10 ^ fraction.length * Nat.ofDigitChars 10 whole 0 +
        Nat.ofDigitChars 10 fraction 0 := by
    rw [Nat.ofDigitChars_append, Nat.ofDigitChars_eq_ofDigitChars_zero]
    push_cast
    rfl
  have power : (10 : ℚ) ^ (-(fraction.length - exponent)) =
      10 ^ exponent / 10 ^ fraction.length := by
    rw [neg_sub, zpow_sub₀ (by norm_num), zpow_natCast]
  have nonzero : (10 : ℚ) ^ fraction.length ≠ 0 := by
    exact pow_ne_zero _ (by norm_num)
  rw [pointedValue, Decimal.value, power, Int.cast_natCast, mantissa]
  field_simp

/-- The value of a numeral is that of its mantissa and its scale. -/
theorem IsUnsigned.unsignedValue? {text : List Char} {mantissa : Nat}
    {scale : Int} (unsigned : IsUnsigned text mantissa scale) :
    Text.unsignedValue? text = some (⟨mantissa, scale⟩ : Decimal).value := by
  cases unsigned with
  | @parts whole fraction rest exponent nonempty digits read =>
      obtain ⟨wholeDigits, fractionDigits⟩ := List.forall_mem_append.mp digits
      have restStops := readExponent?_stops read
      have wholeStops := pointAndDigits_append_stops fraction read
      have noLonePoint : ¬ (fraction = [] ∧
          (pointAndDigits fraction ++ rest).head? = some '.') := by
        rintro ⟨rfl, point⟩
        exact (restStops '.' point).2 rfl
      unfold Text.unsignedValue?
      rw [takeWhile_append_of_stops wholeDigits wholeStops,
        dropWhile_append_of_stops wholeDigits wholeStops]
      dsimp only
      rw [readFraction_append fractionDigits restStops]
      dsimp only
      rw [if_neg (not_or.mpr ⟨nonempty, noLonePoint⟩), read, Option.map_some,
        pointedValue_eq]

theorem value_signed (negative : Bool) (mantissa : Nat) (scale : Int) :
    (⟨signed negative mantissa, scale⟩ : Decimal).value =
      if negative then -(⟨mantissa, scale⟩ : Decimal).value
      else (⟨mantissa, scale⟩ : Decimal).value := by
  cases negative with
  | false => rfl
  | true => simp [Decimal.value, signed]

end Text

/-- The text of a decimal denotes the same number as the decimal. -/
theorem Decimal.numeralValue?_characters (decimal : Decimal) :
    Text.numeralValue? decimal.characters = some decimal.value := by
  rw [Text.numeralValue?, readSign_characters]
  dsimp only
  rw [decimal.isUnsigned_magnitude.unsignedValue?, Option.map_some,
    ← Text.value_signed, signed_natAbs, ← decimal.value_shown]

namespace Text

/-- A digit, a point, a sign or the mark of an exponent. -/
def isNumeralCharacter (character : Char) : Bool :=
  character.isDigit || ['.', '+', '-', 'e', 'E'].contains character

theorem isNumeralCharacter_of_isDigit {character : Char}
    (isDigit : character.isDigit = true) :
    isNumeralCharacter character = true := by
  rw [isNumeralCharacter, isDigit, Bool.true_or]

theorem isDigit_of_readDigits? {text : List Char} {number : Nat}
    (read : readDigits? text = some number) {character : Char}
    (member : character ∈ text) : character.isDigit = true := by
  unfold readDigits? at read
  split at read
  case isTrue digits => exact List.all_eq_true.mp digits.2 character member
  case isFalse => simp at read

theorem mem_readSign {text : List Char} {character : Char}
    (member : character ∈ text) :
    character = '-' ∨ character = '+' ∨ character ∈ (readSign text).2 := by
  unfold readSign
  split
  · rcases List.mem_cons.mp member with minus | later
    · exact .inl minus
    · exact .inr (.inr later)
  · rcases List.mem_cons.mp member with plus | later
    · exact .inr (.inl plus)
    · exact .inr (.inr later)
  · exact .inr (.inr member)

theorem isNumeralCharacter_of_readExponent? {text : List Char}
    {exponent : Int} (read : readExponent? text = some exponent)
    {character : Char} (member : character ∈ text) :
    isNumeralCharacter character = true := by
  cases text with
  | nil => simp at member
  | cons mark rest =>
      rw [readExponent?] at read
      split at read
      case isTrue isMark =>
        obtain ⟨number, digits, -⟩ := Option.map_eq_some_iff.mp read
        rcases List.mem_cons.mp member with rfl | later
        · rcases isMark with rfl | rfl <;> decide
        rcases mem_readSign later with rfl | rfl | digit
        · decide
        · decide
        · exact isNumeralCharacter_of_isDigit
            (isDigit_of_readDigits? digits digit)
      case isFalse => simp at read

theorem isNumeralCharacter_of_mem_pointAndDigits {fraction : List Char}
    (digits : ∀ character ∈ fraction, character.isDigit = true)
    {character : Char} (member : character ∈ pointAndDigits fraction) :
    isNumeralCharacter character = true := by
  cases fraction with
  | nil => simp [pointAndDigits] at member
  | cons digit rest =>
      rcases List.mem_cons.mp member with rfl | later
      · decide
      · exact isNumeralCharacter_of_isDigit (digits character later)

theorem IsUnsigned.forall_isNumeralCharacter {text : List Char}
    {mantissa : Nat} {scale : Int}
    (unsigned : IsUnsigned text mantissa scale) :
    ∀ character ∈ text, isNumeralCharacter character = true := by
  obtain ⟨-, digits, read⟩ := unsigned
  obtain ⟨wholeDigits, fractionDigits⟩ := List.forall_mem_append.mp digits
  intro character member
  rcases List.mem_append.mp member with whole | later
  · exact isNumeralCharacter_of_isDigit (wholeDigits character whole)
  rcases List.mem_append.mp later with fraction | exponent
  · exact isNumeralCharacter_of_mem_pointAndDigits fractionDigits fraction
  · exact isNumeralCharacter_of_readExponent? read exponent

end Text

namespace Decimal

theorem forall_isNumeralCharacter_characters (decimal : Decimal) :
    ∀ character ∈ decimal.characters,
      Text.isNumeralCharacter character = true := by
  intro character member
  rcases Text.mem_readSign member with rfl | rfl | unsigned
  · decide
  · decide
  · rw [readSign_characters] at unsigned
    exact decimal.isUnsigned_magnitude.forall_isNumeralCharacter character
      unsigned

end Decimal

namespace Literal

theorem escapeColons_number (decimal : Decimal) :
    escapeColons (number decimal).characters = (number decimal).characters := by
  apply escapeColons_of_notMem
  intro member
  have isNumeral := decimal.forall_isNumeralCharacter_characters ':' member
  exact absurd isNumeral (by decide)

/-- The text of a number denotes the number, whatever its layout: its mantissa
times a power of ten.  It has only characters of numerals, none of which is
escaped, and numbers with the same text are the same. -/
theorem numeralValue?_number_and_same_of_characters_eq :
    (∀ decimal : Decimal,
      Text.numeralValue? (number decimal).characters =
          some ((decimal.mantissa : ℚ) * 10 ^ (-decimal.scale)) ∧
        (∀ character ∈ (number decimal).characters,
          Text.isNumeralCharacter character = true) ∧
        escapeColons (number decimal).characters =
          (number decimal).characters) ∧
    (∀ whole : Int, Text.numeralValue? (ofInt whole).characters =
      some (whole : ℚ)) ∧
    ∀ first second : Decimal,
      (number first).characters = (number second).characters →
        first.value = second.value ∧
          (number first).same (number second) = true := by
  refine ⟨?_, ?_, ?_⟩
  · intro decimal
    exact ⟨decimal.numeralValue?_characters,
      decimal.forall_isNumeralCharacter_characters,
      escapeColons_number decimal⟩
  · intro whole
    have denoted := (Decimal.ofInt whole).numeralValue?_characters
    rwa [Decimal.value_ofInt] at denoted
  · intro first second sameText
    have denoted := first.numeralValue?_characters
    change first.characters = second.characters at sameText
    rw [sameText, second.numeralValue?_characters] at denoted
    have sameValue : first.value = second.value :=
      (Option.some.inj denoted).symm
    exact ⟨sameValue, (Decimal.same_iff_value_eq first second).mpr sameValue⟩

/-- Five hundred is written alike with the digit five at scale minus two and with
three digits at scale zero. -/
theorem value_eq_of_five_hundred :
    (number ⟨5, -2⟩).characters = (number ⟨500, 0⟩).characters ∧
      (⟨5, -2⟩ : Decimal).value = (⟨500, 0⟩ : Decimal).value := by
  have sameText :
      (number ⟨5, -2⟩).characters = (number ⟨500, 0⟩).characters := by
    decide
  exact ⟨sameText,
    (numeralValue?_number_and_same_of_characters_eq.2.2 _ _ sameText).1⟩

end Literal

end ContentSearch
