import ContentSearch.Json.Reading
import ContentSearch.Options.Choice

/-!
# Settings

What holds for all requests of a program: the place of the service, the
options of a request that does not state its own, and the root of the content
tree.  Settings are read from a JSON record in which every field may be
missing; a field that is present must have a value of its type, and `null` is
the value of none of them.
-/

namespace ContentSearch

/-- Values shared by all requests. -/
structure Settings where
  /-- The part of the address that leads to the service. -/
  serviceToken : String
  /-- The fields that are requested unless others are. -/
  fields : List String
  metadata : Metadata
  inlineCount : InlineCount
  /-- The length of a page. -/
  top : UInt64
  /-- The path at which the content tree starts. -/
  rootPath : String
  deriving DecidableEq

namespace Settings

/-- The settings of a program that states none. -/
def standard : Settings where
  serviceToken := "odata.svc"
  fields := ["DisplayName", "Description", "Icon"]
  metadata := .standard
  inlineCount := .standard
  top := 10000
  rootPath := "/Root"

def serviceTokenField : RecordField Settings :=
  .of "service_token" Json.readText fun value settings =>
    { settings with serviceToken := value }

def fieldsField : RecordField Settings :=
  .of "default_select" Json.readTexts fun value settings =>
    { settings with fields := value }

def metadataField : RecordField Settings :=
  .of "default_metadata" (Json.readChoice Metadata.choices)
    fun value settings => { settings with metadata := value }

def inlineCountField : RecordField Settings :=
  .of "default_inlinecount" (Json.readChoice InlineCount.choices)
    fun value settings => { settings with inlineCount := value }

def topField : RecordField Settings :=
  .of "default_top" Json.readNatural fun value settings =>
    { settings with top := value }

def rootPathField : RecordField Settings :=
  .of "root_path" Json.readText fun value settings =>
    { settings with rootPath := value }

/-- The record in which settings are stored. -/
def format : RecordFormat Settings where
  name := "SdkConfig"
  start := standard
  declared :=
    [serviceTokenField, fieldsField, metadataField, inlineCountField,
      topField, rootPathField]
  byName :=
    [inlineCountField, metadataField, fieldsField, topField, rootPathField,
      serviceTokenField]

def read (json : Json) : Except ReadError Settings :=
  format.read json

end Settings

end ContentSearch
