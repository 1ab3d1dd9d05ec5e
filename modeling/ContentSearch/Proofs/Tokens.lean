import ContentSearch.Clause.Text
import ContentSearch.Proofs.Escaping
import Mathlib.Data.List.Chain

/-!
# Tokens of the query language

Between the text of a query and its clauses stand its tokens: conditions,
connectives, modifiers and the brackets of nested queries.  A negated nested
query opens with a bracket of its own kind.

This file reads the first token of a text.  Names are taken as long as
possible, and a literal or path ends at the first quote of its kind.  If the
names of a token are plain words, and its literals and paths have no such quote
inside, then it is read back from its text, whatever text follows, except that
a name or a number must not be continued by it.
-/

namespace ContentSearch

namespace Text

/-- An ASCII letter, a decimal digit or an underscore. -/
def isNameCharacter (character : Char) : Bool :=
  character.isAlphanum || character == '_'

def IsName (text : String) : Prop :=
  text ≠ "" ∧ ∀ character ∈ text.toList, isNameCharacter character = true

instance (text : String) : Decidable (IsName text) :=
  decidable_of_iff (text ≠ "" ∧ text.toList.all isNameCharacter = true)
    (and_congr_right fun _ => List.all_eq_true)

/-- The following text cannot continue a name or a number. -/
def Apart (characters : List Char) : Prop :=
  ∀ character ∈ characters.head?, character = ' ' ∨ character = ')'

/-- The longest name at the start, and what follows it. -/
def splitName (characters : List Char) : String × List Char :=
  (String.ofList (characters.takeWhile isNameCharacter),
    characters.dropWhile isNameCharacter)

/-- What stands before the first mark, and what follows it. -/
def upTo (mark : Char) (characters : List Char) :
    Option (List Char × List Char) :=
  match characters.dropWhile (· ≠ mark) with
  | [] => none
  | _ :: rest => some (characters.takeWhile (· ≠ mark), rest)

theorem dropWhile_append_of_stops {inside : Char → Bool}
    {body rest : List Char}
    (members : ∀ character ∈ body, inside character = true)
    (stops : ∀ character ∈ rest.head?, inside character = false) :
    (body ++ rest).dropWhile inside = rest := by
  rw [List.dropWhile_append_of_pos members]
  cases rest with
  | nil => rfl
  | cons character rest => simp [stops character rfl]

theorem takeWhile_append_of_stops {inside : Char → Bool}
    {body rest : List Char}
    (members : ∀ character ∈ body, inside character = true)
    (stops : ∀ character ∈ rest.head?, inside character = false) :
    (body ++ rest).takeWhile inside = body := by
  rw [List.takeWhile_append_of_pos members]
  cases rest with
  | nil => simp
  | cons character rest => simp [stops character rfl]

theorem splitName_append {name : String} {rest : List Char}
    (isName : IsName name)
    (stops : ∀ character ∈ rest.head?, isNameCharacter character = false) :
    splitName (name.toList ++ rest) = (name, rest) := by
  rw [splitName, takeWhile_append_of_stops isName.2 stops,
    dropWhile_append_of_stops isName.2 stops, String.ofList_toList]

theorem upTo_append {mark : Char} {body : List Char} (rest : List Char)
    (free : mark ∉ body) :
    upTo mark (body ++ mark :: rest) = some (body, rest) := by
  have members : ∀ character ∈ body, decide (character ≠ mark) = true := by
    intro character member
    simpa using ne_of_mem_of_not_mem member free
  have stops : ∀ character ∈ (mark :: rest).head?,
      decide (character ≠ mark) = false := by
    simp
  rw [upTo, dropWhile_append_of_stops members stops,
    takeWhile_append_of_stops members stops]

theorem Apart.stops {rest : List Char} (apart : Apart rest) :
    ∀ character ∈ rest.head?, isNameCharacter character = false := by
  intro character first
  rcases apart character first with rfl | rfl
  all_goals decide

end Text

/-- The text literal that is written like the given literal. -/
def Literal.plain (literal : Literal) : Literal :=
  .text (String.ofList literal.characters)

def Bound.plain (bound : Bound) : Bound :=
  ⟨bound.value.plain, bound.inclusive⟩

@[simp]
theorem Literal.characters_plain (literal : Literal) :
    literal.plain.characters = literal.characters := by
  simp [plain, characters]

@[simp]
theorem Literal.plain_plain (literal : Literal) :
    literal.plain.plain = literal.plain := by
  rw [plain, characters_plain, plain]

@[simp]
theorem Literal.quoted_plain (literal : Literal) :
    literal.plain.quoted = literal.quoted := by
  rw [quoted, characters_plain, quoted]

namespace Text

def readLiteral : List Char → Option (Literal × List Char)
  | '\'' :: rest =>
      (upTo '\'' rest).map fun (body, rest) =>
        (.text (String.ofList (unescapeColons body)), rest)
  | _ => none

/-- Reads the end of a comparison, an equality sign first if it is included. -/
def readBound : List Char → Option (Bound × List Char)
  | '=' :: rest =>
      (readLiteral rest).map fun (value, rest) => (.included value, rest)
  | rest =>
      (readLiteral rest).map fun (value, rest) => (.excluded value, rest)

theorem readLiteral_append {literal : Literal} (rest : List Char)
    (free : '\'' ∉ literal.characters) :
    readLiteral (literal.quoted ++ rest) = some (literal.plain, rest) := by
  have escapedFree : '\'' ∉ escapeColons literal.characters := by
    rwa [mem_escapeColons_iff (by decide)]
  have found := upTo_append rest escapedFree
  simp only [Literal.quoted, List.cons_append, List.append_assoc,
    List.nil_append, readLiteral, found, Option.map_some,
    unescapeColons_escapeColons, Literal.plain]

theorem readBound_append {bound : Bound} (rest : List Char)
    (free : '\'' ∉ bound.value.characters) :
    readBound (bound.equalitySign ++ (bound.value.quoted ++ rest)) =
      some (bound.plain, rest) := by
  obtain ⟨value, inclusive⟩ := bound
  have found := readLiteral_append rest free
  cases inclusive with
  | true =>
      simp [Bound.equalitySign, readBound, found, Bound.included, Bound.plain]
  | false =>
      simp only [Literal.quoted, List.cons_append, List.append_assoc,
        List.nil_append] at found
      simp [Bound.equalitySign, readBound, Literal.quoted, found,
        Bound.excluded, Bound.plain]

/-- Reads the two literals of a range and the bracket at its end. -/
def readRange (field : String) (included : Bool) (characters : List Char) :
    Option (Condition × List Char) := do
  let (lower, rest) ← readLiteral characters
  match rest with
  | ' ' :: 'T' :: 'O' :: ' ' :: rest =>
      let (upper, rest) ← readLiteral rest
      match rest with
      | ']' :: rest =>
          some (.range field ⟨lower, included⟩ (.included upper), rest)
      | '\x7d' :: rest =>
          some (.range field ⟨lower, included⟩ (.excluded upper), rest)
      | _ => none
  | _ => none

/-- Reads a condition whose first name has been read already. -/
def readCondition (name : String) :
    List Char → Option (Condition × List Char)
  | ':' :: '\'' :: rest =>
      (readLiteral ('\'' :: rest)).map fun (value, rest) =>
        (.equal name value, rest)
  | ':' :: '"' :: rest =>
      (upTo '"' rest).bind fun (path, rest) =>
        if name = "InFolder" then
          some (.inFolder (String.ofList path), rest)
        else if name = "InTree" then
          some (.inTree (String.ofList path), rest)
        else
          none
  | ':' :: '>' :: rest =>
      (readBound rest).map fun (bound, rest) => (.above name bound, rest)
  | ':' :: '<' :: rest =>
      (readBound rest).map fun (bound, rest) => (.below name bound, rest)
  | ':' :: '[' :: rest => readRange name true rest
  | ':' :: '\x7b' :: rest => readRange name false rest
  | ':' :: rest =>
      let (typeName, rest) := splitName rest
      if name = "TypeIs" then
        some (.ofType typeName, rest)
      else if name = "Type" then
        some (.ofExactType typeName, rest)
      else
        none
  | rest => some (.term name, rest)

/-- Reads what stands behind the keyword of a modifier. -/
def readModifier (keyword : String) :
    List Char → Option (Modifier × List Char)
  | ':' :: '\'' :: rest =>
      (upTo '\'' rest).bind fun (field, rest) =>
        if keyword = "SORT" then
          some (.sort (String.ofList field) false, rest)
        else if keyword = "REVERSESORT" then
          some (.sort (String.ofList field) true, rest)
        else
          none
  | ':' :: rest =>
      let count := UInt64.ofNat
        (Nat.ofDigitChars 10 (rest.takeWhile Char.isDigit) 0)
      if keyword = "TOP" then
        some (.top count, rest.dropWhile Char.isDigit)
      else if keyword = "SKIP" then
        some (.skip count, rest.dropWhile Char.isDigit)
      else
        none
  | _ => none

end Text

/-- A piece of the text of a query that holds no further pieces. -/
inductive Token where
  | condition (condition : Condition)
  | opening
  | negatedOpening
  | closing
  | connective (connective : Connective)
  | modifier (modifier : Modifier)

namespace Token

def characters : Token → List Char
  | condition restriction => restriction.characters
  | opening => ['(']
  | negatedOpening => "NOT(".toList
  | closing => [')']
  | connective joint => ' ' :: joint.word ++ [' ']
  | modifier adjustment => adjustment.characters

/-- Reads a token that starts with a name. -/
def readWord (name : String) : List Char → Option (Token × List Char)
  | '(' :: rest => if name = "NOT" then some (negatedOpening, rest) else none
  | rest =>
      (Text.readCondition name rest).map fun (restriction, rest) =>
        (condition restriction, rest)

/-- The first token of a text, and the text that follows it. -/
def read? : List Char → Option (Token × List Char)
  | [] => none
  | '(' :: rest => some (opening, rest)
  | ')' :: rest => some (closing, rest)
  | ' ' :: 'A' :: 'N' :: 'D' :: ' ' :: rest => some (connective .and, rest)
  | ' ' :: 'O' :: 'R' :: ' ' :: rest => some (connective .or, rest)
  | ' ' :: '.' :: rest =>
      let (keyword, rest) := Text.splitName rest
      (Text.readModifier keyword rest).map fun (adjustment, rest) =>
        (modifier adjustment, rest)
  | characters =>
      let (name, rest) := Text.splitName characters
      readWord name rest

end Token

/-- The names of the condition are plain words, its literals have no single
quote and its paths no double quote. -/
def Condition.Clean : Condition → Prop
  | term text => Text.IsName text
  | ofType name => Text.IsName name
  | ofExactType name => Text.IsName name
  | inFolder path => '"' ∉ path.toList
  | inTree path => '"' ∉ path.toList
  | equal field value => Text.IsName field ∧ '\'' ∉ value.characters
  | different field value => Text.IsName field ∧ '\'' ∉ value.characters
  | range field lower upper =>
      Text.IsName field ∧ '\'' ∉ lower.value.characters ∧
        '\'' ∉ upper.value.characters
  | above field bound =>
      Text.IsName field ∧ '\'' ∉ bound.value.characters
  | below field bound =>
      Text.IsName field ∧ '\'' ∉ bound.value.characters

def Modifier.Clean : Modifier → Prop
  | sort field _ => Text.IsName field
  | _ => True

/-- The condition with the text literals that are written like its own. -/
def Condition.plain : Condition → Condition
  | equal field value => equal field value.plain
  | different field value => different field value.plain
  | range field lower upper => range field lower.plain upper.plain
  | above field bound => above field bound.plain
  | below field bound => below field bound.plain
  | other => other

@[simp]
theorem Condition.characters_plain (condition : Condition) :
    condition.plain.characters = condition.characters := by
  unfold characters
  cases condition <;>
    simp only [plain, Bound.plain, Bound.equalitySign, Literal.quoted_plain]

theorem Modifier.exists_characters_eq (modifier : Modifier) :
    ∃ rest, modifier.characters = ' ' :: '.' :: rest := by
  unfold characters
  cases modifier with
  | sort field descending => cases descending <;> exact ⟨_, rfl⟩
  | top count => exact ⟨_, rfl⟩
  | skip count => exact ⟨_, rfl⟩

namespace Text

theorem readRange_append (field : String) {lower upper : Bound}
    (rest : List Char) (lowerFree : '\'' ∉ lower.value.characters)
    (upperFree : '\'' ∉ upper.value.characters) :
    readRange field lower.inclusive
        (lower.value.quoted ++ (" TO ".toList ++ (upper.value.quoted ++
          (if upper.inclusive then ']' else '\x7d') :: rest))) =
      some (.range field lower.plain upper.plain, rest) := by
  have separator (others : List Char) :
      " TO ".toList ++ others = ' ' :: 'T' :: 'O' :: ' ' :: others := by
    simp
  rw [readRange, readLiteral_append _ lowerFree, separator]
  simp only [Option.bind_eq_bind, Option.bind_some,
    readLiteral_append _ upperFree]
  obtain ⟨value, inclusive⟩ := upper
  cases inclusive <;> rfl

theorem IsName.exists_cons {name : String} (isName : IsName name) :
    ∃ first rest, name.toList = first :: rest ∧
      isNameCharacter first = true := by
  cases characters : name.toList with
  | nil => exact absurd (String.toList_eq_nil_iff.mp characters) isName.1
  | cons first rest =>
      exact ⟨first, rest, rfl, isName.2 first (by simp [characters])⟩

theorem readCondition_type {name typeName : String} {rest : List Char}
    (isName : IsName typeName) (apart : Apart rest) :
    readCondition name (':' :: (typeName.toList ++ rest)) =
      if name = "TypeIs" then
        some (.ofType typeName, rest)
      else if name = "Type" then
        some (.ofExactType typeName, rest)
      else
        none := by
  have split := splitName_append isName apart.stops
  obtain ⟨first, others, characters, nameCharacter⟩ := isName.exists_cons
  rw [characters, List.cons_append] at split ⊢
  rw [readCondition, split]
  all_goals
    intro other equal
    obtain ⟨rfl, -⟩ := List.cons.inj equal
    exact absurd nameCharacter (by decide)

end Text

namespace Token

open Text

theorem read?_name_append {name : String} {rest : List Char}
    (isName : IsName name)
    (stops : ∀ character ∈ rest.head?, isNameCharacter character = false) :
    read? (name.toList ++ rest) = readWord name rest := by
  have split := splitName_append isName stops
  obtain ⟨first, others, characters, nameCharacter⟩ := isName.exists_cons
  rw [characters, List.cons_append] at split ⊢
  rw [read?, split]
  · simp
  all_goals
    intro other equal
    obtain ⟨rfl, -⟩ := List.cons.inj equal
    exact absurd nameCharacter (by decide)

theorem readWord_colon (name : String) (rest : List Char) :
    readWord name (':' :: rest) =
      (readCondition name (':' :: rest)).map fun (restriction, rest) =>
        (condition restriction, rest) :=
  rfl

/-- A name and a colon are read, and then what a condition has after them. -/
theorem read?_field_append {field : String} (isName : IsName field)
    (rest : List Char) :
    read? (field.toList ++ ':' :: rest) =
      (readCondition field (':' :: rest)).map fun (restriction, rest) =>
        (condition restriction, rest) := by
  rw [read?_name_append isName (by
    intro character first
    obtain rfl : character = ':' := by simpa [eq_comm] using first
    decide), readWord_colon]

theorem read?_term_append {text : String} {rest : List Char}
    (isName : IsName text) (apart : Apart rest) :
    read? (text.toList ++ rest) = some (condition (.term text), rest) := by
  rw [read?_name_append isName apart.stops]
  cases rest with
  | nil => rfl
  | cons character rest =>
      rcases apart character rfl with rfl | rfl
      · rfl
      · rfl

/-- A clean condition is read back with plain literals.  The condition that a
field has not a value is the one that is written with a bracket. -/
theorem read?_condition_append {restriction : Condition} {rest : List Char}
    (clean : restriction.Clean)
    (unbracketed : ∀ field value, restriction ≠ .different field value)
    (apart : Apart rest) :
    read? (restriction.characters ++ rest) =
      some (condition restriction.plain, rest) := by
  unfold Condition.characters
  cases restriction with
  | term text => exact read?_term_append clean apart
  | ofType name =>
      have keyword : "TypeIs:".toList ++ name.toList ++ rest =
          "TypeIs".toList ++ ':' :: (name.toList ++ rest) := by
        simp
      simp only [keyword]
      rw [read?_field_append (by decide), readCondition_type clean apart]
      rfl
  | ofExactType name =>
      have keyword : "Type:".toList ++ name.toList ++ rest =
          "Type".toList ++ ':' :: (name.toList ++ rest) := by
        simp
      simp only [keyword]
      rw [read?_field_append (by decide), readCondition_type clean apart]
      rfl
  | inFolder path =>
      have keyword : "InFolder:".toList ++ Condition.quotedPath path ++ rest =
          "InFolder".toList ++ ':' :: '"' :: (path.toList ++ '"' :: rest) := by
        simp [Condition.quotedPath]
      simp only [keyword]
      rw [read?_field_append (by decide), readCondition,
        upTo_append rest clean]
      simp [Condition.plain]
  | inTree path =>
      have keyword : "InTree:".toList ++ Condition.quotedPath path ++ rest =
          "InTree".toList ++ ':' :: '"' :: (path.toList ++ '"' :: rest) := by
        simp [Condition.quotedPath]
      simp only [keyword]
      rw [read?_field_append (by decide), readCondition,
        upTo_append rest clean]
      simp [Condition.plain]
  | equal field value =>
      have found := readLiteral_append rest clean.2
      simp only [Literal.quoted, List.cons_append, List.append_assoc] at found ⊢
      rw [read?_field_append clean.1, readCondition, found]
      rfl
  | different field value => exact absurd rfl (unbracketed field value)
  | range field lower upper =>
      have found := readRange_append field rest clean.2.1 clean.2.2
      simp only [List.cons_append, List.append_assoc, List.nil_append]
      rw [read?_field_append clean.1]
      cases inclusive : lower.inclusive with
      | true =>
          rw [inclusive] at found
          simp only [if_true, readCondition]
          rw [found]
          rfl
      | false =>
          rw [inclusive] at found
          simp only [Bool.false_eq_true, if_false, readCondition]
          rw [found]
          rfl
  | above field bound =>
      simp only [List.cons_append, List.append_assoc]
      rw [read?_field_append clean.1, readCondition,
        readBound_append rest clean.2]
      rfl
  | below field bound =>
      simp only [List.cons_append, List.append_assoc]
      rw [read?_field_append clean.1, readCondition,
        readBound_append rest clean.2]
      rfl

theorem read?_keyword_append {keyword : String} (isName : IsName keyword)
    (rest : List Char) :
    read? (' ' :: '.' :: (keyword.toList ++ ':' :: rest)) =
      (readModifier keyword (':' :: rest)).map fun (adjustment, rest) =>
        (modifier adjustment, rest) := by
  rw [read?, splitName_append isName (by
    intro character first
    obtain rfl : character = ':' := by simpa [eq_comm] using first
    decide)]

private theorem readModifier_sort {keyword field : String}
    (rest : List Char) (isName : IsName field) :
    readModifier keyword
        (':' :: '\'' :: (field.toList ++ '\'' :: rest)) =
      if keyword = "SORT" then
        some (.sort field false, rest)
      else if keyword = "REVERSESORT" then
        some (.sort field true, rest)
      else
        none := by
  have free : '\'' ∉ field.toList := by
    intro member
    exact absurd (isName.2 _ member) (by decide)
  rw [readModifier, upTo_append rest free]
  simp

private theorem readModifier_count {keyword : String} (count : UInt64)
    {rest : List Char} (apart : Apart rest) :
    readModifier keyword (':' :: (decimal count.toNat ++ rest)) =
      if keyword = "TOP" then
        some (.top count, rest)
      else if keyword = "SKIP" then
        some (.skip count, rest)
      else
        none := by
  have digits : ∀ character ∈ decimal count.toNat,
      character.isDigit = true :=
    fun _ member => isDigit_of_mem_decimal member
  have stops : ∀ character ∈ rest.head?, character.isDigit = false := by
    intro character first
    rcases apart character first with rfl | rfl
    all_goals decide
  have taken := takeWhile_append_of_stops digits stops
  have dropped := dropWhile_append_of_stops digits stops
  have value : UInt64.ofNat
      (Nat.ofDigitChars 10 (decimal count.toNat) 0) = count := by
    rw [ofDigitChars_decimal, UInt64.ofNat_toNat]
  cases written : decimal count.toNat with
  | nil => exact absurd written (decimal_ne_nil _)
  | cons digit others =>
      have isDigit := digits digit (by simp [written])
      rw [written] at taken dropped value
      rw [List.cons_append] at taken dropped ⊢
      rw [readModifier, taken, dropped, value]
      intro other equal
      obtain ⟨rfl, -⟩ := List.cons.inj equal
      exact absurd isDigit (by decide)

theorem read?_modifier_append {adjustment : Modifier} {rest : List Char}
    (clean : adjustment.Clean) (apart : Apart rest) :
    read? (adjustment.characters ++ rest) =
      some (modifier adjustment, rest) := by
  unfold Modifier.characters
  cases adjustment with
  | sort field descending =>
      cases descending with
      | false =>
          have keyword : " .SORT:'".toList ++ field.toList ++ ['\''] ++ rest =
              ' ' :: '.' :: ("SORT".toList ++
                ':' :: '\'' :: (field.toList ++ '\'' :: rest)) := by
            simp
          simp only [Bool.false_eq_true, if_false, keyword]
          rw [read?_keyword_append (by decide), readModifier_sort rest clean]
          rfl
      | true =>
          have keyword :
              " .REVERSESORT:'".toList ++ field.toList ++ ['\''] ++ rest =
                ' ' :: '.' :: ("REVERSESORT".toList ++
                  ':' :: '\'' :: (field.toList ++ '\'' :: rest)) := by
            simp
          simp only [if_true, keyword]
          rw [read?_keyword_append (by decide), readModifier_sort rest clean]
          rfl
  | top count =>
      have keyword : " .TOP:".toList ++ decimal count.toNat ++ rest =
          ' ' :: '.' :: ("TOP".toList ++
            ':' :: (decimal count.toNat ++ rest)) := by
        simp
      simp only [keyword]
      rw [read?_keyword_append (by decide), readModifier_count count apart]
      rfl
  | skip count =>
      have keyword : " .SKIP:".toList ++ decimal count.toNat ++ rest =
          ' ' :: '.' :: ("SKIP".toList ++
            ':' :: (decimal count.toNat ++ rest)) := by
        simp
      simp only [keyword]
      rw [read?_keyword_append (by decide), readModifier_count count apart]
      rfl

def startsRestriction : Token → Bool
  | condition _ => true
  | opening => true
  | negatedOpening => true
  | _ => false

/-- A condition or a nested query may begin after the token. -/
def precedesRestriction : Token → Bool
  | connective _ => true
  | opening => true
  | negatedOpening => true
  | _ => false

/-- Conditions and nested queries begin only where they may. -/
def Follows (earlier later : Token) : Prop :=
  later.startsRestriction = true → earlier.precedesRestriction = true

/-- The token is clean, and its literals are texts. -/
def Legible : Token → Prop
  | condition restriction =>
      restriction.Clean ∧ restriction.plain = restriction ∧
        ∀ field value, restriction ≠ .different field value
  | modifier adjustment => adjustment.Clean
  | _ => True

theorem read?_append {token : Token} {rest : List Char}
    (legible : token.Legible)
    (apart : token.precedesRestriction = false → Apart rest) :
    read? (token.characters ++ rest) = some (token, rest) := by
  cases token with
  | condition restriction =>
      obtain ⟨clean, plain, unbracketed⟩ := legible
      rw [characters, read?_condition_append clean unbracketed (apart rfl),
        plain]
  | opening => rfl
  | negatedOpening =>
      have keyword : "NOT(".toList ++ rest = "NOT".toList ++ '(' :: rest := by
        simp
      simp only [characters, keyword]
      rw [read?_name_append (by decide) (by
        intro character first
        obtain rfl : character = '(' := by simpa [eq_comm] using first
        decide)]
      rfl
  | closing => rfl
  | connective joint => cases joint <;> rfl
  | modifier adjustment =>
      rw [characters, read?_modifier_append legible (apart rfl)]

theorem apart_of_isChain {token : Token} {tokens : List Token}
    (chain : (token :: tokens).IsChain Follows)
    (ends : token.precedesRestriction = false) :
    Apart (tokens.flatMap characters) := by
  cases tokens with
  | nil => simp [Apart]
  | cons next others =>
      have follows : Follows token next := chain.rel
      cases next with
      | condition restriction => simp [Follows, startsRestriction, ends] at follows
      | opening => simp [Follows, startsRestriction, ends] at follows
      | negatedOpening => simp [Follows, startsRestriction, ends] at follows
      | closing => simp [Apart, characters]
      | connective joint => simp [Apart, characters]
      | modifier adjustment =>
          obtain ⟨others, equal⟩ := adjustment.exists_characters_eq
          simp [Apart, characters, equal]

/-- A sequence of tokens can be read in one way only. -/
theorem eq_of_flatMap_characters_eq {first second : List Token}
    (firstLegible : ∀ token ∈ first, token.Legible)
    (secondLegible : ∀ token ∈ second, token.Legible)
    (firstChain : first.IsChain Follows)
    (secondChain : second.IsChain Follows)
    (equal : first.flatMap characters = second.flatMap characters) :
    first = second := by
  have readFirst {token : Token} {tokens : List Token}
      (legible : ∀ other ∈ token :: tokens, other.Legible)
      (chain : (token :: tokens).IsChain Follows) :
      read? ((token :: tokens).flatMap characters) =
        some (token, tokens.flatMap characters) := by
    rw [List.flatMap_cons]
    exact read?_append (legible token (by simp)) (apart_of_isChain chain)
  induction first generalizing second with
  | nil =>
      cases second with
      | nil => rfl
      | cons token tokens =>
          have found := readFirst secondLegible secondChain
          rw [← equal] at found
          exact absurd found (by simp [read?])
  | cons token tokens inductionHypothesis =>
      have found := readFirst firstLegible firstChain
      rw [equal] at found
      cases second with
      | nil => exact absurd found (by simp [read?])
      | cons other others =>
          rw [readFirst secondLegible secondChain] at found
          obtain ⟨rfl, restEqual⟩ := by simpa using found
          have tailsEqual : tokens = others := inductionHypothesis
            (fun token member => firstLegible token (by simp [member]))
            (fun token member => secondLegible token (by simp [member]))
            firstChain.tail secondChain.tail restEqual.symm
          rw [tailsEqual]

end Token

end ContentSearch
