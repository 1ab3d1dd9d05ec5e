import ContentSearch.Selection
import ContentSearch.Settings
import ContentSearch.Text.Digits

/-!
# Response options

The options of a request shape its response: which fields it has, which
references it follows, how it is ordered and cut into pages.  Each option may
be left open.  Settings fill the options that are open, except that the
selection always starts with the fields by which an item is known.

Options are sent as pairs of a name and a text, in a fixed order.
-/

namespace ContentSearch

/-- What a request says about its response. -/
structure Options where
  select : Option Selection
  expand : Option (List String)
  orderBy : Option (List String)
  top : Option UInt64
  skip : Option UInt64
  filter : Option String
  format : Option String
  inlineCount : Option InlineCount
  metadata : Option Metadata
  scenario : Option String
  deriving DecidableEq

namespace Options

/-- The options of a request that leaves everything open. -/
def empty : Options :=
  ⟨none, none, none, none, none, none, none, none, none, none⟩

/-- The options of a request for all fields. -/
def ofEverything : Options :=
  { empty with select := some .everything }

/-- The fields that every request asks for. -/
def identifyingFields : List String :=
  ["Id", "Path", "Name", "Type"]

/-- Fills the open options from the settings.  The selection is that of the
options, or else that of the settings, with the required fields before it. -/
def fill (options : Options) (settings : Settings) : Options :=
  { options with
    select := some (Selection.merge
      [.fields identifyingFields, options.select.getD (.fields settings.fields)])
    metadata := some (options.metadata.getD settings.metadata)
    inlineCount := some (options.inlineCount.getD settings.inlineCount)
    top := some (options.top.getD settings.top) }

/-- One option with its value. -/
inductive Entry where
  | select (selection : Selection)
  | expand (fields : List String)
  | orderBy (clauses : List String)
  | top (count : UInt64)
  | skip (count : UInt64)
  | filter (condition : String)
  | format (name : String)
  | inlineCount (choice : InlineCount)
  | metadata (choice : Metadata)
  | scenario (name : String)
  deriving DecidableEq

/-- Sets one option and leaves all others. -/
def set (options : Options) : Entry → Options
  | .select selection => { options with select := some selection }
  | .expand fields => { options with expand := some fields }
  | .orderBy clauses => { options with orderBy := some clauses }
  | .top count => { options with top := some count }
  | .skip count => { options with skip := some count }
  | .filter condition => { options with filter := some condition }
  | .format name => { options with format := some name }
  | .inlineCount choice => { options with inlineCount := some choice }
  | .metadata choice => { options with metadata := some choice }
  | .scenario name => { options with scenario := some name }

namespace Entry

def name : Entry → String
  | select _ => "$select"
  | expand _ => "$expand"
  | orderBy _ => "$orderby"
  | top _ => "$top"
  | skip _ => "$skip"
  | filter _ => "$filter"
  | format _ => "$format"
  | inlineCount _ => "$inlinecount"
  | metadata _ => "metadata"
  | scenario _ => "scenario"

def text : Entry → String
  | select selection => selection.text
  | expand fields => ",".intercalate fields
  | orderBy clauses => ",".intercalate clauses
  | top count => String.ofList (Text.decimal count.toNat)
  | skip count => String.ofList (Text.decimal count.toNat)
  | filter condition => condition
  | format name => name
  | inlineCount choice => choice.name
  | metadata choice => choice.name
  | scenario name => name

def json : Entry → Json
  | select selection => .text selection.text
  | expand fields => .ofTexts fields
  | orderBy clauses => .ofTexts clauses
  | top count => .integer count.toNat
  | skip count => .integer count.toNat
  | filter condition => .text condition
  | format name => .text name
  | inlineCount choice => .text choice.name
  | metadata choice => .text choice.name
  | scenario name => .text name

end Entry

/-- The options that are set, in the order in which they are sent. -/
def entries (options : Options) : List Entry :=
  [options.select.map .select, options.expand.map .expand,
    options.orderBy.map .orderBy, options.top.map .top,
    options.skip.map .skip, options.filter.map .filter,
    options.format.map .format, options.inlineCount.map .inlineCount,
    options.metadata.map .metadata,
    options.scenario.map .scenario].filterMap id

def pairs (options : Options) : List (String × String) :=
  options.entries.map fun entry => (entry.name, entry.text)

def json (options : Options) : Json :=
  .object (options.entries.map fun entry => (entry.name, entry.json))

end Options

end ContentSearch
