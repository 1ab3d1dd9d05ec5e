import ContentSearch.Text.Quoted

/-!
# Typed fields

A schema names the fields of a kind of content.  Conditions need only the name
of a field, but references to fields are compared as fields: two fields of a
schema stay different even if the repository knows both by one name.
-/

namespace ContentSearch

/-- The names under which a repository knows the fields of a content kind. -/
structure Schema (Field : Type) where
  name : Field → String

/-- A field of a schema. -/
structure FieldReference {Field : Type} (schema : Schema Field) where
  field : Field
  deriving DecidableEq

namespace FieldReference

variable {Field : Type} {schema : Schema Field}

/-- The name used in conditions. -/
def name (reference : FieldReference schema) : String :=
  schema.name reference.field

def description (reference : FieldReference schema) : String :=
  String.ofList ("FieldRef \x7b field: ".toList ++
    Text.quoted reference.name ++ " \x7d".toList)

end FieldReference

end ContentSearch
