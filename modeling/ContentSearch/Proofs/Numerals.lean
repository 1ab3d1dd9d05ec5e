import ContentSearch.Decimal.Basic
import ContentSearch.Proofs.DecimalValues
import ContentSearch.Proofs.Tokens
import ContentSearch.Text.Digits

/-!
# Numerals

A numeral is a sequence of digits that may have a sign before it, a point in it
and an exponent behind it.  Its digits without the point are the mantissa, and
the digits behind the point less the exponent are the scale of a decimal.

Every decimal is written as a numeral and read back as it was stored, but for
whole numbers whose zeros are written out: these are read with scale zero.  So
two decimals are written alike exactly if they are stored alike once such zeros
are part of the mantissa.
-/

namespace ContentSearch

namespace Text

/-- Whether there is a minus sign, and what follows the sign. -/
def readSign : List Char → Bool × List Char
  | '-' :: rest => (true, rest)
  | '+' :: rest => (false, rest)
  | text => (false, text)

def signed (negative : Bool) (number : Nat) : Int :=
  if negative then -number else number

/-- The number whose digits are the text. -/
def readDigits? (text : List Char) : Option Nat :=
  if text ≠ [] ∧ text.all Char.isDigit then
    some (Nat.ofDigitChars 10 text 0)
  else
    none

/-- The exponent behind the digits of a numeral; zero if nothing follows. -/
def readExponent? : List Char → Option Int
  | [] => some 0
  | mark :: rest =>
      if mark = 'e' ∨ mark = 'E' then
        let (negative, digits) := readSign rest
        (readDigits? digits).map (signed negative)
      else
        none

/-- The digits behind a point, and what follows them; none without a point. -/
def readFraction : List Char → List Char × List Char
  | '.' :: rest => (rest.takeWhile Char.isDigit, rest.dropWhile Char.isDigit)
  | rest => ([], rest)

/-- The mantissa and the scale of a numeral without sign. -/
def readUnsigned? (text : List Char) : Option (Nat × Int) :=
  let whole := text.takeWhile Char.isDigit
  let (fraction, rest) := readFraction (text.dropWhile Char.isDigit)
  if whole = [] then
    none
  else
    (readExponent? rest).map fun exponent =>
      (Nat.ofDigitChars 10 (whole ++ fraction) 0, fraction.length - exponent)

end Text

namespace Decimal

/-- The decimal that a numeral stands for. -/
def readNumeral? (text : List Char) : Option Decimal :=
  let (negative, rest) := Text.readSign text
  (Text.readUnsigned? rest).map fun (mantissa, scale) =>
    ⟨Text.signed negative mantissa, scale⟩

end Decimal

namespace Text

/-- The digits behind the point, with the point if there are any. -/
def pointAndDigits : List Char → List Char
  | [] => []
  | digit :: rest => '.' :: digit :: rest

theorem pointAndDigits_of_ne_nil {fraction : List Char}
    (nonempty : fraction ≠ []) : pointAndDigits fraction = '.' :: fraction := by
  cases fraction with
  | nil => exact absurd rfl nonempty
  | cons digit rest => rfl

theorem readExponent?_stops {text : List Char} {exponent : Int}
    (read : readExponent? text = some exponent) :
    ∀ character ∈ text.head?, character.isDigit = false ∧ character ≠ '.' := by
  intro character starts
  obtain ⟨rest, rfl⟩ := List.head?_eq_some_iff.mp starts
  have mark : character = 'e' ∨ character = 'E' := by
    by_contra other
    simp [readExponent?, other] at read
  rcases mark with rfl | rfl <;> decide

theorem readFraction_append {fraction rest : List Char}
    (digits : ∀ character ∈ fraction, character.isDigit = true)
    (stops : ∀ character ∈ rest.head?,
      character.isDigit = false ∧ character ≠ '.') :
    readFraction (pointAndDigits fraction ++ rest) = (fraction, rest) := by
  cases fraction with
  | nil =>
      cases rest with
      | nil => rfl
      | cons character others =>
          have noPoint : character ≠ '.' := (stops character rfl).2
          simp [pointAndDigits, readFraction, noPoint]
  | cons digit others =>
      have stopsDigits : ∀ character ∈ rest.head?,
          character.isDigit = false :=
        fun character starts => (stops character starts).1
      change (((digit :: others) ++ rest).takeWhile Char.isDigit,
        ((digit :: others) ++ rest).dropWhile Char.isDigit) = _
      rw [takeWhile_append_of_stops digits stopsDigits,
        dropWhile_append_of_stops digits stopsDigits]

/-- The digits before the point end where the point or the exponent stands. -/
theorem pointAndDigits_append_stops (fraction : List Char) {rest : List Char}
    {exponent : Int} (read : readExponent? rest = some exponent) :
    ∀ character ∈ (pointAndDigits fraction ++ rest).head?,
      character.isDigit = false := by
  intro character starts
  cases fraction with
  | nil => exact (readExponent?_stops read character starts).1
  | cons digit others =>
      obtain rfl : '.' = character := Option.some.inj starts
      rfl

/-- The text has digits, perhaps a point with digits, and perhaps an exponent.
All its digits are those of the mantissa, and the digits behind the point less
the exponent are the scale. -/
inductive IsUnsigned : List Char → Nat → Int → Prop
  | parts {whole fraction rest : List Char} {exponent : Int}
      (nonempty : whole ≠ [])
      (digits : ∀ character ∈ whole ++ fraction, character.isDigit = true)
      (read : readExponent? rest = some exponent) :
      IsUnsigned (whole ++ (pointAndDigits fraction ++ rest))
        (Nat.ofDigitChars 10 (whole ++ fraction) 0)
        (fraction.length - exponent)

theorem IsUnsigned.readUnsigned? {text : List Char} {mantissa : Nat}
    {scale : Int} (unsigned : IsUnsigned text mantissa scale) :
    Text.readUnsigned? text = some (mantissa, scale) := by
  cases unsigned with
  | @parts whole fraction rest exponent nonempty digits read =>
      obtain ⟨wholeDigits, fractionDigits⟩ := List.forall_mem_append.mp digits
      have wholeStops := pointAndDigits_append_stops fraction read
      unfold Text.readUnsigned?
      rw [takeWhile_append_of_stops wholeDigits wholeStops,
        dropWhile_append_of_stops wholeDigits wholeStops,
        readFraction_append fractionDigits (readExponent?_stops read)]
      simp [nonempty, read]

/-- Digits with a point between them. -/
theorem IsUnsigned.pointed {whole fraction : List Char}
    (nonempty : whole ≠ []) (follows : fraction ≠ [])
    (digits : ∀ character ∈ whole ++ fraction, character.isDigit = true) :
    IsUnsigned (whole ++ '.' :: fraction)
      (Nat.ofDigitChars 10 (whole ++ fraction) 0) fraction.length := by
  have unsigned := parts nonempty digits (show readExponent? [] = some 0 from rfl)
  rwa [pointAndDigits_of_ne_nil follows, List.append_nil, Int.sub_zero]
    at unsigned

theorem decimal_shift {number : Nat} (pos : 0 < number) (zeros : Nat) :
    decimal (number * 10 ^ zeros) =
      decimal number ++ List.replicate zeros '0' := by
  induction zeros with
  | zero => simp
  | succ zeros inductionHypothesis =>
      have shiftedPos : 0 < number * 10 ^ zeros :=
        Nat.mul_pos pos (Nat.pow_pos (by decide))
      have further : number * 10 ^ (zeros + 1) =
          10 * (number * 10 ^ zeros) + 0 := by
        rw [pow_succ]
        ring
      have lastZero : ['0'] = Nat.toDigits 10 0 := rfl
      rw [List.replicate_succ', ← List.append_assoc, ← inductionHypothesis,
        further, lastZero]
      exact (Nat.toDigits_append_toDigits (by decide) shiftedPos
        (by decide)).symm

theorem readDigits?_decimal (number : Nat) :
    readDigits? (decimal number) = some number := by
  have digits : (decimal number).all Char.isDigit = true :=
    List.all_eq_true.mpr fun _ member => isDigit_of_mem_decimal member
  rw [readDigits?, if_pos ⟨decimal_ne_nil number, digits⟩,
    ofDigitChars_decimal]

theorem readExponent?_negative (number : Nat) :
    readExponent? ('E' :: '-' :: decimal number) = some (-(number : Int)) := by
  change (readDigits? (decimal number)).map (signed true) = _
  rw [readDigits?_decimal]
  rfl

theorem readExponent?_positive (number : Nat) :
    readExponent? ('e' :: '+' :: decimal number) = some number := by
  change (readDigits? (decimal number)).map (signed false) = _
  rw [readDigits?_decimal]
  rfl

theorem readSign_of_readUnsigned? {text : List Char} {read : Nat × Int}
    (unsigned : readUnsigned? text = some read) :
    readSign text = (false, text) := by
  unfold readSign
  split
  · simp [readUnsigned?] at unsigned
  · simp [readUnsigned?] at unsigned
  · rfl

end Text

namespace Decimal

/-- The decimal is a whole number whose zeros are written out. -/
def WrittenOut (decimal : Decimal) : Prop :=
  -(mostTrailingZeros : Int) ≤ decimal.scale ∧ decimal.scale ≤ 0

instance (decimal : Decimal) : Decidable decimal.WrittenOut :=
  inferInstanceAs (Decidable (_ ∧ _))

/-- The decimal as it is read from its text. -/
def shown (decimal : Decimal) : Decimal :=
  if decimal.mantissa = 0 then
    ⟨0, 0⟩
  else if decimal.WrittenOut then
    ⟨decimal.mantissa * 10 ^ (-decimal.scale).toNat, 0⟩
  else
    decimal

theorem isDigit_of_mem_digits {decimal : Decimal} {character : Char}
    (member : character ∈ decimal.digits) : character.isDigit = true :=
  Text.isDigit_of_mem_decimal member

theorem digits_ne_nil (decimal : Decimal) : decimal.digits ≠ [] :=
  Text.decimal_ne_nil _

theorem ofDigitChars_digits (decimal : Decimal) :
    Nat.ofDigitChars 10 decimal.digits 0 = decimal.mantissa.natAbs :=
  Text.ofDigitChars_decimal _

/-- Zeros at the end of the mantissa are zeros at the end of its digits. -/
theorem digits_shift (decimal : Decimal) (nonzero : decimal.mantissa ≠ 0)
    (zeros : Nat) (scale : Int) :
    (⟨decimal.mantissa * 10 ^ zeros, scale⟩ : Decimal).digits =
      decimal.digits ++ List.replicate zeros '0' := by
  have absolute : (decimal.mantissa * 10 ^ zeros).natAbs =
      decimal.mantissa.natAbs * 10 ^ zeros := by
    rw [Int.natAbs_mul, Int.natAbs_pow]
    rfl
  rw [digits, absolute]
  exact Text.decimal_shift (Int.natAbs_pos.mpr nonzero) zeros

theorem pointed_eq {digits : List Char} (nonempty : digits ≠ []) :
    pointed digits = digits.take 1 ++ Text.pointAndDigits (digits.drop 1) := by
  match digits with
  | [_] => rfl
  | _ :: _ :: _ => rfl

/-- The digits with a point behind the first of them, and an exponent. -/
theorem isUnsigned_pointed_append (decimal : Decimal) {rest : List Char}
    {exponent : Int} (read : Text.readExponent? rest = some exponent) :
    Text.IsUnsigned (pointed decimal.digits ++ rest) decimal.mantissa.natAbs
      ((decimal.digits.length - 1 : Nat) - exponent) := by
  have nonempty : decimal.digits.take 1 ≠ [] := by
    simp [decimal.digits_ne_nil]
  have digits : ∀ character ∈ decimal.digits.take 1 ++ decimal.digits.drop 1,
      character.isDigit = true := by
    rw [List.take_append_drop]
    exact fun character member => isDigit_of_mem_digits member
  have unsigned := Text.IsUnsigned.parts nonempty digits read
  rwa [← List.append_assoc, ← pointed_eq decimal.digits_ne_nil,
    List.take_append_drop, ofDigitChars_digits, List.length_drop] at unsigned

/-- The digits without a point, and an exponent. -/
theorem isUnsigned_digits_append (decimal : Decimal) {rest : List Char}
    {exponent : Int} (read : Text.readExponent? rest = some exponent) :
    Text.IsUnsigned (decimal.digits ++ rest) decimal.mantissa.natAbs
      (-exponent) := by
  have digits : ∀ character ∈ decimal.digits ++ [],
      character.isDigit = true := by
    rw [List.append_nil]
    exact fun character member => isDigit_of_mem_digits member
  have unsigned := Text.IsUnsigned.parts decimal.digits_ne_nil digits read
  rwa [Text.pointAndDigits, List.nil_append, List.append_nil,
    ofDigitChars_digits, List.length_nil, Int.natCast_zero, Int.zero_sub]
    at unsigned

/-- The count of digits behind the point is the scale. -/
theorem isUnsigned_positional (decimal : Decimal) {count : Nat}
    (pos : 0 < count) :
    Text.IsUnsigned (positional decimal.digits count) decimal.mantissa.natAbs
      count := by
  unfold positional
  split
  case isTrue fewer =>
    have whole :
        decimal.digits.take (decimal.digits.length - count) ≠ [] := by
      simp [digits_ne_nil]
      omega
    have fraction :
        decimal.digits.drop (decimal.digits.length - count) ≠ [] := by
      simp
      omega
    have digits : ∀ character ∈
        decimal.digits.take (decimal.digits.length - count) ++
          decimal.digits.drop (decimal.digits.length - count),
        character.isDigit = true := by
      rw [List.take_append_drop]
      exact fun character member => isDigit_of_mem_digits member
    have length : decimal.digits.length - (decimal.digits.length - count) =
        count := by
      omega
    have unsigned := Text.IsUnsigned.pointed whole fraction digits
    rwa [List.take_append_drop, ofDigitChars_digits, List.length_drop, length]
      at unsigned
  case isFalse notFewer =>
    have digits : ∀ character ∈ ['0'] ++
        (List.replicate (count - decimal.digits.length) '0' ++
          decimal.digits), character.isDigit = true := by
      intro character member
      simp only [List.mem_append, List.mem_singleton] at member
      rcases member with rfl | zero | digit
      · decide
      · exact Text.isDigit_of_mem_zeros zero
      · exact isDigit_of_mem_digits digit
    have value : Nat.ofDigitChars 10 (['0'] ++
        (List.replicate (count - decimal.digits.length) '0' ++
          decimal.digits)) 0 = decimal.mantissa.natAbs := by
      rw [Nat.ofDigitChars_append, Nat.ofDigitChars_append,
        Nat.ofDigitChars_replicate_zero]
      exact decimal.ofDigitChars_digits
    have length : (List.replicate (count - decimal.digits.length) '0' ++
        decimal.digits).length = count := by
      rw [List.length_append, List.length_replicate]
      omega
    have unsigned := Text.IsUnsigned.pointed (List.cons_ne_nil '0' [])
      (by simp [digits_ne_nil]) digits
    rwa [value, length] at unsigned

/-- Every decimal is written as a numeral, in each of the four layouts. -/
theorem isUnsigned_magnitude (decimal : Decimal) :
    Text.IsUnsigned decimal.magnitude decimal.shown.mantissa.natAbs
      decimal.shown.scale := by
  by_cases zero : decimal.mantissa = 0
  · rw [magnitude, shown, if_pos zero, if_pos zero]
    exact isUnsigned_digits_append ⟨0, 0⟩
      (show Text.readExponent? [] = some 0 from rfl)
  · unfold magnitude shown
    rw [if_neg zero, if_neg zero]
    by_cases fraction : 0 < decimal.scale
    · have notWritten : ¬ decimal.WrittenOut := by
        intro written
        exact absurd written.2 (by omega)
      have scaleEq : (decimal.scale.toNat : Int) = decimal.scale := by omega
      rw [if_pos fraction, if_neg notWritten]
      dsimp only
      split
      case isTrue small =>
        have unsigned := decimal.isUnsigned_pointed_append
          (Text.readExponent?_negative
            (decimal.scale.toNat + 1 - decimal.digits.length))
        have digitsPos := List.length_pos_of_ne_nil decimal.digits_ne_nil
        have sum : ((decimal.digits.length - 1 : Nat) : Int) -
            -((decimal.scale.toNat + 1 - decimal.digits.length : Nat) : Int) =
              decimal.scale := by
          simp only [mostLeadingZeros] at small
          omega
        rwa [sum] at unsigned
      case isFalse notSmall =>
        have unsigned := decimal.isUnsigned_positional
          (show 0 < decimal.scale.toNat by omega)
        rwa [scaleEq] at unsigned
    · rw [if_neg fraction]
      dsimp only
      split
      case isTrue large =>
        have notWritten : ¬ decimal.WrittenOut := by
          intro written
          have low := written.1
          omega
        have scaleEq : -((-decimal.scale).toNat : Int) = decimal.scale := by
          omega
        have unsigned := decimal.isUnsigned_digits_append
          (Text.readExponent?_positive (-decimal.scale).toNat)
        rw [if_neg notWritten]
        rwa [scaleEq] at unsigned
      case isFalse notLarge =>
        have written : decimal.WrittenOut := ⟨by omega, by omega⟩
        have unsigned := isUnsigned_digits_append
          ⟨decimal.mantissa * 10 ^ (-decimal.scale).toNat, 0⟩
          (show Text.readExponent? [] = some 0 from rfl)
        rw [List.append_nil, decimal.digits_shift zero] at unsigned
        rw [if_pos written]
        exact unsigned

theorem signed_natAbs (number : Int) :
    Text.signed (decide (number < 0)) number.natAbs = number := by
  unfold Text.signed
  split
  case isTrue negative =>
    have isNegative : number < 0 := of_decide_eq_true negative
    omega
  case isFalse notNegative =>
    have isNonnegative : ¬ number < 0 := by simpa using notNegative
    omega

theorem shown_mantissa_neg_iff (decimal : Decimal) :
    decimal.shown.mantissa < 0 ↔ decimal.mantissa < 0 := by
  unfold shown
  split_ifs with zero written
  · simp [zero]
  · have power : (0 : Int) < 10 ^ (-decimal.scale).toNat :=
      Int.pow_pos (by decide)
    constructor
    · intro negative
      exact Int.neg_of_mul_neg_left negative power
    · intro negative
      exact Int.mul_neg_of_neg_of_pos negative power
  · rfl

theorem readSign_characters (decimal : Decimal) :
    Text.readSign decimal.characters =
      (decide (decimal.shown.mantissa < 0), decimal.magnitude) := by
  rw [characters, decide_eq_decide.mpr (shown_mantissa_neg_iff decimal)]
  split
  case isTrue negative =>
    rw [decide_eq_true negative]
    rfl
  case isFalse notNegative =>
    rw [decide_eq_false notNegative, Text.readSign_of_readUnsigned?
      decimal.isUnsigned_magnitude.readUnsigned?]

/-- Every decimal is written as a numeral that is read back. -/
theorem readNumeral?_characters (decimal : Decimal) :
    readNumeral? decimal.characters = some decimal.shown := by
  rw [readNumeral?, readSign_characters]
  dsimp only
  rw [decimal.isUnsigned_magnitude.readUnsigned?, Option.map_some,
    signed_natAbs]

theorem value_shown (decimal : Decimal) :
    decimal.shown.value = decimal.value := by
  unfold shown
  split_ifs with zero written
  · rw [(value_eq_zero_iff decimal).mpr zero]
    simp [value]
  · have scaleEq : decimal.scale + ((-decimal.scale).toNat : Int) = 0 := by
      have low := written.2
      omega
    have shifted := value_shift decimal.mantissa decimal.scale
      (-decimal.scale).toNat
    rw [scaleEq] at shifted
    exact shifted
  · rfl

theorem characters_shown (decimal : Decimal) :
    decimal.shown.characters = decimal.characters := by
  have magnitudes : decimal.shown.magnitude = decimal.magnitude := by
    unfold shown
    split_ifs with zero written
    · rw [magnitude, magnitude, if_pos zero]
      rfl
    · have shiftedNonzero :
          decimal.mantissa * 10 ^ (-decimal.scale).toNat ≠ 0 :=
        Int.mul_ne_zero zero (pow_ne_zero _ (by decide))
      have noFraction : ¬ 0 < decimal.scale := not_lt.mpr written.2
      have notLarge : ¬ mostTrailingZeros < (-decimal.scale).toNat := by
        have low := written.1
        omega
      unfold magnitude
      dsimp only
      rw [if_neg shiftedNonzero, if_neg zero, if_neg (lt_irrefl 0),
        if_neg noFraction, if_neg notLarge, if_neg (by decide),
        decimal.digits_shift zero]
      exact List.append_nil _
    · rfl
  rw [characters, characters, magnitudes]
  simp only [shown_mantissa_neg_iff]

/-- Two decimals are written alike exactly if they are read alike. -/
theorem characters_eq_iff_shown_eq (first second : Decimal) :
    first.characters = second.characters ↔ first.shown = second.shown := by
  constructor
  · intro same
    have read := readNumeral?_characters first
    rw [same, readNumeral?_characters] at read
    exact (Option.some.inj read).symm
  · intro same
    rw [← characters_shown first, same, characters_shown]

theorem shown_eq_iff_of_value_eq {first second : Decimal}
    (sameValue : first.value = second.value) :
    first.shown = second.shown ↔ first.shown.scale = second.shown.scale := by
  constructor
  · intro same
    rw [same]
  · intro sameScale
    apply eq_of_value_eq sameScale
    rw [value_shown, value_shown, sameValue]

theorem scale_shown_of_writtenOut {decimal : Decimal}
    (written : decimal.WrittenOut) : decimal.shown.scale = 0 := by
  unfold shown
  split_ifs <;> rfl

theorem scale_shown_of_not_writtenOut {decimal : Decimal}
    (nonzero : decimal.mantissa ≠ 0) (notWritten : ¬ decimal.WrittenOut) :
    decimal.shown.scale = decimal.scale := by
  rw [shown, if_neg nonzero, if_neg notWritten]

theorem writtenOut_of_scale_eq_zero {decimal : Decimal}
    (whole : decimal.scale = 0) : decimal.WrittenOut := by
  refine ⟨?_, whole.le⟩
  rw [whole]
  decide

theorem WrittenOut.of_scale_eq {first second : Decimal}
    (written : first.WrittenOut) (same : first.scale = second.scale) :
    second.WrittenOut := by
  unfold WrittenOut at written ⊢
  rwa [← same]

/-- Two stored forms of a number are written alike: the number is zero, the
scales are the same, or the zeros are written out at both scales. -/
def WrittenAlike (first second : Decimal) : Prop :=
  first.mantissa = 0 ∨ first.scale = second.scale ∨
    first.WrittenOut ∧ second.WrittenOut

instance (first second : Decimal) : Decidable (first.WrittenAlike second) :=
  inferInstanceAs (Decidable (_ ∨ _ ∨ _))

theorem characters_eq_iff_writtenAlike {first second : Decimal}
    (sameValue : first.value = second.value) :
    first.characters = second.characters ↔ first.WrittenAlike second := by
  rw [characters_eq_iff_shown_eq, shown_eq_iff_of_value_eq sameValue,
    WrittenAlike]
  have zeros : first.mantissa = 0 ↔ second.mantissa = 0 := by
    rw [← value_eq_zero_iff, sameValue, value_eq_zero_iff]
  by_cases zero : first.mantissa = 0
  · have firstShown : first.shown = ⟨0, 0⟩ := if_pos zero
    have secondShown : second.shown = ⟨0, 0⟩ := if_pos (zeros.mp zero)
    simp [zero, firstShown, secondShown]
  · have nonzero := zeros.not.mp zero
    rw [or_iff_right zero]
    by_cases firstWritten : first.WrittenOut
    · rw [scale_shown_of_writtenOut firstWritten]
      by_cases secondWritten : second.WrittenOut
      · rw [scale_shown_of_writtenOut secondWritten]
        exact iff_of_true rfl (.inr ⟨firstWritten, secondWritten⟩)
      · rw [scale_shown_of_not_writtenOut nonzero secondWritten]
        refine iff_of_false ?_ ?_
        · intro whole
          exact secondWritten (writtenOut_of_scale_eq_zero whole.symm)
        · rintro (same | both)
          · exact secondWritten (firstWritten.of_scale_eq same)
          · exact secondWritten both.2
    · rw [scale_shown_of_not_writtenOut zero firstWritten]
      by_cases secondWritten : second.WrittenOut
      · rw [scale_shown_of_writtenOut secondWritten]
        refine iff_of_false ?_ ?_
        · intro whole
          exact firstWritten (writtenOut_of_scale_eq_zero whole)
        · rintro (same | both)
          · exact firstWritten (secondWritten.of_scale_eq same.symm)
          · exact firstWritten both.1
      · rw [scale_shown_of_not_writtenOut nonzero secondWritten]
        simp [firstWritten]

end Decimal

end ContentSearch
