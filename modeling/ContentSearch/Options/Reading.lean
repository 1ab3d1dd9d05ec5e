import ContentSearch.Options

/-!
# Reading response options

Options are stored in a JSON record under the names by which they are sent.
Every field may be missing, and `null` stands for an option that is left open.
-/

namespace ContentSearch

namespace Options

def readSelection (json : Json) : Except ReadError Selection :=
  json.readText.map Selection.ofText

/-- A field for one option: the name by which it is sent, the reader of its
value, and how the value is stored. -/
def field {α : Type} (name : String) (read : Json → Except ReadError α)
    (store : Option α → Options → Options) : RecordField Options :=
  .of name (Json.readOptional read) store

def selectField : RecordField Options :=
  field "$select" readSelection fun value options =>
    { options with select := value }

def expandField : RecordField Options :=
  field "$expand" Json.readTexts fun value options =>
    { options with expand := value }

def orderByField : RecordField Options :=
  field "$orderby" Json.readTexts fun value options =>
    { options with orderBy := value }

def topField : RecordField Options :=
  field "$top" Json.readNatural fun value options =>
    { options with top := value }

def skipField : RecordField Options :=
  field "$skip" Json.readNatural fun value options =>
    { options with skip := value }

def filterField : RecordField Options :=
  field "$filter" Json.readText fun value options =>
    { options with filter := value }

def formatField : RecordField Options :=
  field "$format" Json.readText fun value options =>
    { options with format := value }

def inlineCountField : RecordField Options :=
  field "$inlinecount" (Json.readChoice InlineCount.choices)
    fun value options => { options with inlineCount := value }

def metadataField : RecordField Options :=
  field "metadata" (Json.readChoice Metadata.choices)
    fun value options => { options with metadata := value }

def scenarioField : RecordField Options :=
  field "scenario" Json.readText fun value options =>
    { options with scenario := value }

/-- The record in which options are stored. -/
def recordFormat : RecordFormat Options where
  name := "ODataParams"
  start := empty
  declared :=
    [selectField, expandField, orderByField, topField, skipField,
      filterField, formatField, inlineCountField, metadataField,
      scenarioField]
  byName :=
    [expandField, filterField, formatField, inlineCountField, orderByField,
      selectField, skipField, topField, metadataField, scenarioField]

def read (json : Json) : Except ReadError Options :=
  recordFormat.read json

/-- Reads options that may be missing altogether. -/
def readIfPresent (json : Json) : Except ReadError (Option Options) :=
  json.readOptional read

end Options

end ContentSearch
