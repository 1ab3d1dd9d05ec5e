import ContentSearch.Options
import ContentSearch.Text.Quoted

/-!
# Reports of response options

A report shows every option by its name, set or not, in the order of the
record.  Texts are quoted.
-/

namespace ContentSearch

def Metadata.description : Metadata → String
  | no => "No"
  | minimal => "Minimal"
  | full => "Full"

def InlineCount.description : InlineCount → String
  | allPages => "AllPages"
  | uncounted => "None"

namespace Options

def describeText (text : String) : String :=
  String.ofList (Text.quoted text)

def describeNumber (number : UInt64) : String :=
  String.ofList (Text.decimal number.toNat)

def describeTexts (texts : List String) : String :=
  "[" ++ ", ".intercalate (texts.map describeText) ++ "]"

def describeSelection : Selection → String
  | .everything => "All"
  | .fields names => "Fields(" ++ describeTexts names ++ ")"

def describeOptional {α : Type} (describe : α → String) : Option α → String
  | none => "None"
  | some value => "Some(" ++ describe value ++ ")"

/-- The options with their names, as a report shows them. -/
def descriptions (options : Options) : List (String × String) :=
  [("select", describeOptional describeSelection options.select),
    ("expand", describeOptional describeTexts options.expand),
    ("orderby", describeOptional describeTexts options.orderBy),
    ("top", describeOptional describeNumber options.top),
    ("skip", describeOptional describeNumber options.skip),
    ("filter", describeOptional describeText options.filter),
    ("format", describeOptional describeText options.format),
    ("inlinecount",
      describeOptional InlineCount.description options.inlineCount),
    ("metadata", describeOptional Metadata.description options.metadata),
    ("scenario", describeOptional describeText options.scenario)]

def description (options : Options) : String :=
  "ODataParams \x7b " ++
    ", ".intercalate
      (options.descriptions.map fun entry => entry.1 ++ ": " ++ entry.2) ++
    " \x7d"

end Options

end ContentSearch
