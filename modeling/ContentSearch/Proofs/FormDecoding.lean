import ContentSearch.Proofs.Cutting
import ContentSearch.Url.Form

/-!
# Reading encoded pairs back

A server cuts the query part of an address at its ampersands and each piece at
its first equality sign.  A plus sign stands for a space and a percent sign
with two digits for a byte, and the bytes are read as UTF-8.

No sign of the encoding is left in an encoded name or text, so every list of
pairs is read back as it was, whatever characters its names and texts have.
-/

namespace ContentSearch

namespace Url

/-- The value of a hexadecimal digit, which a reader takes in either case. -/
def hexValue? (digit : Char) : Option Nat :=
  if digit.isDigit then
    some (digit.toNat - '0'.toNat)
  else if 'A' ≤ digit ∧ digit ≤ 'F' then
    some (digit.toNat - 'A'.toNat + 10)
  else if 'a' ≤ digit ∧ digit ≤ 'f' then
    some (digit.toNat - 'a'.toNat + 10)
  else
    none

/-- The bytes that an encoded text stands for.  A percent sign without two
digits after it stands for itself. -/
def decodeBytes : List Char → List UInt8
  | [] => []
  | '+' :: rest => 0x20 :: decodeBytes rest
  | '%' :: high :: low :: rest =>
      match hexValue? high, hexValue? low with
      | some first, some second =>
          UInt8.ofNat (16 * first + second) :: decodeBytes rest
      | _, _ => 0x25 :: decodeBytes (high :: low :: rest)
  | character :: rest =>
      String.utf8EncodeChar character ++ decodeBytes rest

/-- The text whose UTF-8 bytes the encoding stands for, if they are UTF-8. -/
def decode? (encoded : List Char) : Option String :=
  String.fromUTF8? (decodeBytes encoded).toByteArray

/-- The pair in a piece, which has its name before the first equality sign. -/
def decodePair? (encoded : List Char) : Option (String × String) := do
  let (name, text) := Text.cutFirst '=' encoded
  some (← decode? name, ← decode? (text.getD []))

/-- The pairs in the query part of an address; empty pieces are passed over. -/
def decodePairs? (encoded : List Char) : Option (List (String × String)) :=
  ((encoded.splitOn '&').filter fun piece => !piece.isEmpty).mapM decodePair?

theorem hexValue?_hexDigit {value : Nat} (small : value < 16) :
    hexValue? (hexDigit value) = some value := by
  have digits : ∀ value : Fin 16,
      hexValue? (hexDigit value) = some value.val := by decide
  exact digits ⟨value, small⟩

theorem isPlain_hexDigit {value : Nat} (small : value < 16) :
    isPlain (hexDigit value) = true := by
  have digits : ∀ value : Fin 16, isPlain (hexDigit value) = true := by decide
  exact digits ⟨value, small⟩

theorem decodeBytes_percentTriple_append (byte : UInt8) (rest : List Char) :
    decodeBytes (percentTriple byte ++ rest) = byte :: decodeBytes rest := by
  have bound : byte.toNat < 256 := byte.toNat_lt
  have high : hexValue? (hexDigit (byte.toNat / 16)) =
      some (byte.toNat / 16) := hexValue?_hexDigit (by omega)
  have low : hexValue? (hexDigit (byte.toNat % 16)) =
      some (byte.toNat % 16) := hexValue?_hexDigit (by omega)
  have value : 16 * (byte.toNat / 16) + byte.toNat % 16 = byte.toNat :=
    Nat.div_add_mod byte.toNat 16
  change decodeBytes ('%' :: hexDigit (byte.toNat / 16) ::
    hexDigit (byte.toNat % 16) :: rest) = _
  rw [decodeBytes, high, low]
  simp [value]

theorem decodeBytes_flatMap_percentTriple_append (bytes : List UInt8)
    (rest : List Char) :
    decodeBytes (bytes.flatMap percentTriple ++ rest) =
      bytes ++ decodeBytes rest := by
  induction bytes with
  | nil => rfl
  | cons byte bytes inductionHypothesis =>
      rw [List.flatMap_cons, List.append_assoc,
        decodeBytes_percentTriple_append, inductionHypothesis,
        List.cons_append]

/-- The encoding of a character stands for the bytes of the character. -/
theorem decodeBytes_encodeCharacter_append (character : Char)
    (rest : List Char) :
    decodeBytes (encodeCharacter character ++ rest) =
      String.utf8EncodeChar character ++ decodeBytes rest := by
  unfold encodeCharacter
  split
  next plain =>
    have noPlus : character ≠ '+' := by
      rintro rfl
      exact absurd plain (by decide)
    have noPercent : character ≠ '%' := by
      rintro rfl
      exact absurd plain (by decide)
    rw [List.singleton_append, decodeBytes]
    · exact noPlus
    · intro high low others isPercent
      exact absurd isPercent noPercent
  next =>
    split
    next isSpace =>
      subst character
      rfl
    next =>
      exact decodeBytes_flatMap_percentTriple_append _ rest

theorem decodeBytes_encode (text : String) :
    decodeBytes (encode text) =
      text.toList.flatMap String.utf8EncodeChar := by
  unfold encode
  induction text.toList with
  | nil => rfl
  | cons character rest inductionHypothesis =>
      rw [List.flatMap_cons, decodeBytes_encodeCharacter_append,
        inductionHypothesis, List.flatMap_cons]

/-- Every text is read back as it was. -/
theorem decode?_encode (text : String) :
    decode? (encode text) = some text := by
  have bytes : (decodeBytes (encode text)).toByteArray = text.toByteArray := by
    rw [decodeBytes_encode]
    exact String.utf8Encode_toList
  unfold decode? String.fromUTF8?
  rw [bytes, dif_pos text.isValidUTF8]
  rfl

/-- Besides plain characters, an encoded text has plus and percent signs. -/
theorem isPlain_or_of_mem_encode {text : String} {character : Char}
    (member : character ∈ encode text) :
    isPlain character = true ∨ character = '+' ∨ character = '%' := by
  obtain ⟨source, -, member⟩ := List.mem_flatMap.mp member
  unfold encodeCharacter at member
  split at member
  next plain =>
    rw [List.mem_singleton.mp member]
    exact .inl plain
  next =>
    split at member
    next => exact .inr (.inl (List.mem_singleton.mp member))
    next =>
      obtain ⟨byte, -, member⟩ := List.mem_flatMap.mp member
      have bound : byte.toNat < 256 := byte.toNat_lt
      simp only [percentTriple, List.mem_cons, List.not_mem_nil, or_false]
        at member
      rcases member with rfl | rfl | rfl
      · exact .inr (.inr rfl)
      · exact .inl (isPlain_hexDigit (by omega))
      · exact .inl (isPlain_hexDigit (by omega))

theorem equalitySign_not_mem_encode (text : String) : '=' ∉ encode text := by
  intro member
  exact absurd (isPlain_or_of_mem_encode member) (by decide)

/-- An encoded pair has no sign that could end it, nor one that could end the
query part or the path before it. -/
theorem not_mem_encodePair {mark : Char} (isMark : mark ∈ ['&', '?', '#'])
    (pair : String × String) : mark ∉ encodePair pair := by
  have noMark (text : String) : mark ∉ encode text := by
    intro member
    have cases := isPlain_or_of_mem_encode member
    simp only [List.mem_cons, List.not_mem_nil, or_false] at isMark
    rcases isMark with rfl | rfl | rfl
    all_goals exact absurd cases (by decide)
  have noEquality : mark ≠ '=' := by
    rintro rfl
    exact absurd isMark (by decide)
  simp [encodePair, noMark, noEquality]

theorem decodePair?_encodePair (pair : String × String) :
    decodePair? (encodePair pair) = some pair := by
  have cut : Text.cutFirst '=' (encodePair pair) =
      (encode pair.1, some (encode pair.2)) :=
    Text.cutFirst_append (equalitySign_not_mem_encode pair.1) _
  simp [decodePair?, cut, decode?_encode]

/-- Every list of pairs is read back as it was. -/
theorem decodePairs?_encodePairs (pairs : List (String × String)) :
    decodePairs? (encodePairs pairs) = some pairs := by
  have pieces : ((encodePairs pairs).splitOn '&').filter
      (fun piece => !piece.isEmpty) = pairs.map encodePair := by
    cases pairs with
    | nil => rfl
    | cons first rest =>
        have parted : (encodePairs (first :: rest)).splitOn '&' =
            (first :: rest).map encodePair := by
          apply List.splitOn_intercalate
          · intro piece member
            obtain ⟨pair, -, rfl⟩ := List.mem_map.mp member
            exact not_mem_encodePair (by decide) pair
          · simp
        rw [parted, List.filter_eq_self]
        intro piece member
        obtain ⟨pair, -, rfl⟩ := List.mem_map.mp member
        simp [encodePair]
  calc
    decodePairs? (encodePairs pairs) =
        (pairs.map encodePair).mapM decodePair? := by
      rw [decodePairs?, pieces]
    _ = pairs.mapM (decodePair? ∘ encodePair) := List.mapM_map
    _ = pairs.mapM fun pair => pure (id pair) :=
      congrArg (List.mapM · pairs) (funext decodePair?_encodePair)
    _ = some pairs := by
      rw [List.mapM_pure, List.map_id]
      rfl

theorem not_mem_encodePairs {mark : Char} (isMark : mark ∈ ['?', '#'])
    (pairs : List (String × String)) : mark ∉ encodePairs pairs := by
  have inPair (pair : String × String) : mark ∉ encodePair pair :=
    not_mem_encodePair (List.mem_cons_of_mem _ isMark) pair
  have noAmpersand : mark ≠ '&' := by
    rintro rfl
    exact absurd isMark (by decide)
  induction pairs with
  | nil => simp
  | cons first rest inductionHypothesis =>
      cases rest with
      | nil => simpa [encodePairs] using inPair first
      | cons second others =>
          have parts : encodePairs (first :: second :: others) =
              encodePair first ++ '&' :: encodePairs (second :: others) := by
            simp [encodePairs, List.intercalate_cons_cons]
          rw [parts, List.mem_append, List.mem_cons]
          simp [inPair first, noAmpersand, inductionHypothesis]

end Url

end ContentSearch
