import ContentSearch.Json
import ContentSearch.Json.Numeral
import ContentSearch.Text.Quoted

/-!
# Reading JSON values

Readers turn JSON values into texts, numbers, choices and records.  A reader
stops at the first fault, and the fault tells what was found and what was
expected.

A record is read from an object or from a list.  In an object the known names
are visited in the order of their bytes, each one is checked as it is visited,
and other names are ignored; a name that is missing leaves the field as it
was.  A list gives the fields in the order of their declaration; it may stop
early but must not have more elements than the record has fields.
-/

namespace ContentSearch

/-- What kind of value was found. -/
inductive Found where
  | null
  | truth (value : Bool)
  | integer (value : Int)
  | real (word : UInt64)
  | text (value : String)
  | list
  | object
  deriving DecidableEq

/-- What kind of value was expected. -/
inductive Expected where
  | text
  | natural
  | list
  | choice
  | nothing
  | record (name : String)
  deriving DecidableEq

/-- The reason why a JSON value cannot be read. -/
inductive ReadError where
  | wrongType (found : Found) (expected : Expected)
  /-- A whole number outside the range of natural numbers of sixty-four
  bits. -/
  | outOfRange (number : Int)
  /-- A choice given as an object that has not exactly one member. -/
  | notSingleMember
  | unknownChoice (name : String) (choices : List String)
  /-- A record given as a list without the element of a required field. -/
  | missingElement (count : Nat) (record : String)
  /-- A record given as a list with more elements than fields. -/
  | extraElements (count : Nat)
  | missingMember (name : String)
  deriving DecidableEq

namespace Json

def found : Json → Found
  | null => .null
  | truth value => .truth value
  | integer value => .integer value
  | real word => .real word
  | text value => .text value
  | list _ => .list
  | object _ => .object

end Json

namespace Found

def words : Found → String
  | null => "null"
  | truth value => "boolean `" ++ (if value then "true" else "false") ++ "`"
  | integer value => "integer `" ++ toString value ++ "`"
  | real word =>
      "floating point `" ++ String.ofList (Json.realCharacters word) ++ "`"
  | text value => "string " ++ String.ofList (Text.quoted value)
  | list => "sequence"
  | object => "map"

end Found

namespace Expected

def words : Expected → String
  | text => "a string"
  | natural => "u64"
  | list => "a sequence"
  | choice => "string or map"
  | nothing => "unit"
  | record name => "struct " ++ name

end Expected

namespace ReadError

/-- The names of the choices: two are joined by a word, more are listed. -/
def choiceWords : List String → String
  | [first, second] => "`" ++ first ++ "` or `" ++ second ++ "`"
  | choices =>
      "one of " ++ ", ".intercalate (choices.map fun name => "`" ++ name ++ "`")

def message : ReadError → String
  | wrongType found expected =>
      "invalid type: " ++ found.words ++ ", expected " ++ expected.words
  | outOfRange number =>
      "invalid value: " ++ (Found.integer number).words ++ ", expected " ++
        Expected.natural.words
  | notSingleMember => "invalid value: map, expected map with a single key"
  | unknownChoice name choices =>
      "unknown variant `" ++ name ++ "`, expected " ++ choiceWords choices
  | missingElement count record =>
      "invalid length " ++ toString count ++ ", expected struct " ++ record ++
        " with 1 element"
  | extraElements count =>
      "invalid length " ++ toString count ++
        ", expected fewer elements in array"
  | missingMember name => "missing field `" ++ name ++ "`"

end ReadError

namespace Json

def readText : Json → Except ReadError String
  | text value => .ok value
  | json => .error (.wrongType json.found .text)

/-- Reads a natural number of sixty-four bits. -/
def readNatural : Json → Except ReadError UInt64
  | integer value =>
      if 0 ≤ value ∧ value < UInt64.size then
        .ok (UInt64.ofNat value.toNat)
      else
        .error (.outOfRange value)
  | json => .error (.wrongType json.found .natural)

/-- Reads a list without looking at its elements. -/
def readItems : Json → Except ReadError (List Json)
  | list items => .ok items
  | json => .error (.wrongType json.found .list)

def readTexts (json : Json) : Except ReadError (List String) := do
  let items ← json.readItems
  items.mapM readText

/-- Reads `null` as the absence of a value. -/
def readOptional {α : Type} (read : Json → Except ReadError α) :
    Json → Except ReadError (Option α)
  | null => .ok none
  | json => (read json).map some

def choose {α : Type} (choices : List (String × α)) (name : String) :
    Except ReadError α :=
  match choices.lookup name with
  | some value => .ok value
  | none => .error (.unknownChoice name (choices.map Prod.fst))

/-- Reads a choice: its name, or an object whose only member has this name and
the value `null`. -/
def readChoice {α : Type} (choices : List (String × α)) :
    Json → Except ReadError α
  | text name => choose choices name
  | object [(name, content)] => do
      let value ← choose choices name
      match content with
      | null => .ok value
      | _ => .error (.wrongType content.found .nothing)
  | object _ => .error .notSingleMember
  | json => .error (.wrongType json.found .choice)

end Json

/-- A field of a record: its name, and how its value changes the record. -/
structure RecordField (α : Type) where
  name : String
  assign : Json → α → Except ReadError α

namespace RecordField

/-- A field whose value is read on its own and then stored. -/
def of {α β : Type} (name : String) (read : Json → Except ReadError β)
    (store : β → α → α) : RecordField α :=
  ⟨name, fun json record => (read json).map fun value => store value record⟩

end RecordField

/-- How a record is read: its name, the record before any field is read, and
its fields, in the order of declaration and in the order of their names. -/
structure RecordFormat (α : Type) where
  name : String
  start : α
  declared : List (RecordField α)
  byName : List (RecordField α)

namespace RecordFormat

variable {α : Type}

/-- Reads one field from the members of an object. -/
def visit (members : List (String × Json)) (record : α)
    (field : RecordField α) : Except ReadError α :=
  match members.lookup field.name with
  | some json => field.assign json record
  | none => .ok record

def read (format : RecordFormat α) : Json → Except ReadError α
  | .object members => format.byName.foldlM (visit members) format.start
  | .list items => do
      let record ← (format.declared.zip items).foldlM
        (fun record (field, json) => field.assign json record) format.start
      if format.declared.length < items.length then
        .error (.extraElements items.length)
      else
        .ok record
  | json => .error (.wrongType json.found (.record format.name))

end RecordFormat

end ContentSearch
