/-
  SCHEMAS: what the requests look like, for clients that fill them in.

  A schema names the fields of a request, says what each is for, and lists those that are required.
-/
import DocIndex.Request

namespace DocIndex

/-- A field of a request, as a schema tells of it. -/
structure SchemaField where
  name : String
  description : String
  /-- the values to choose from, if there is a choice -/
  choices : List String := []
  required : Bool := true

/-- The shape of a request. -/
structure Schema where
  title : String
  fields : List SchemaField

namespace Schema

/-- The field that chooses a format. -/
def formatField (description : String) : SchemaField where
  name := "format"
  description := description
  choices := Format.known.map (·.1)
  required := false

def search : Schema where
  title := "SearchRequest"
  fields := [
    { name := "query"
      description :=
        "Text to look for in names, qualified names and method signatures (case-insensitive)" },
    formatField
      "Output format: text (grouped listing), html (dropdown markup) or json (category buckets)"]

def resolveType : Schema where
  title := "ResolveTypeRequest"
  fields := [
    { name := "type_expression"
      description :=
        "Type expression as written in a signature " ++
        "(e.g., \"Map<String, List<User>>\", \"int[]\")" },
    formatField "Output format: text (links listed), html (anchors and spans), json (segments)"]

def lookupType : Schema where
  title := "LookupTypeRequest"
  fields := [
    { name := "name"
      description := "Qualified (e.g., \"com.acme.User\") or simple (e.g., \"User\") type name" }]

/-- A field as a value. -/
def fieldJson (f : SchemaField) : Json :=
  .object <|
    [("description", .string f.description)] ++
    (if f.choices.isEmpty then [] else [("enum", .strings f.choices)]) ++
    [("type", .string "string")]

/-- The schema as a value. -/
def toJson (s : Schema) : Json :=
  .object [
    ("$schema", .string "http://json-schema.org/draft-07/schema#"),
    ("properties", .object (s.fields.map fun f => (f.name, fieldJson f))),
    ("required", .strings ((s.fields.filter SchemaField.required).map SchemaField.name)),
    ("title", .string s.title),
    ("type", .string "object")]

end Schema
end DocIndex
