/-
  REQUESTS: search, resolve a type expression, look up a type.

  A search and a resolution are answered as plain text, as markup or as JSON.
-/
import DocIndex.Json.Shape

namespace DocIndex

/-- How an answer is written. -/
inductive Format where
  | text
  | html
  | json
  deriving Repr, DecidableEq

/-- The formats by name. -/
def Format.known : List (String × Format) := [("text", .text), ("html", .html), ("json", .json)]

/-- The name of a format. -/
def Format.name : Format → String
  | .text => "text"
  | .html => "html"
  | .json => "json"

/-- Look for a text in the index. -/
structure SearchRequest where
  query : String
  format : Format := .text
  deriving Repr, DecidableEq

/-- Link the identifiers of a type expression. -/
structure ResolveRequest where
  expression : String
  format : Format := .text
  deriving Repr, DecidableEq

/-- Show one type. -/
structure LookupRequest where
  name : String
  deriving Repr, DecidableEq

namespace Request

/-- What is known of a request while it is read. -/
structure Draft where
  subject : Option String := none
  format : Format := .text

/-- Takes a member of a request whose subject is the field `subject`. -/
def Draft.fill (subject : String) (d : Draft) : String × Json → Except Json.Fault Draft
  | (key, v) =>
    if key = subject then do return { d with subject := some (← Json.toText v) }
    else if key = "format" then do return { d with format := ← Json.toChoice Format.known v }
    else .ok d

/-- How a request with a subject and a format is made from a value. -/
def formattedForm {α : Type} (name subject : String) (make : String → Format → α) :
    Json.Form Draft α where
  name := name
  fields := [subject, "format"]
  blank := {}
  fill := Draft.fill subject
  close d := do return make (← Json.needed subject d.subject) d.format

end Request

/-- How a search request is made from a value. -/
def SearchRequest.form : Json.Form Request.Draft SearchRequest :=
  Request.formattedForm "SearchRequest" "query" SearchRequest.mk

/-- How a request to resolve is made from a value. -/
def ResolveRequest.form : Json.Form Request.Draft ResolveRequest :=
  Request.formattedForm "ResolveTypeRequest" "type_expression" ResolveRequest.mk

/-- How a request to look up is made from a value. -/
def LookupRequest.form : Json.Form (Option String) LookupRequest where
  name := "LookupTypeRequest"
  fields := ["name"]
  blank := none
  fill d
    | ("name", v) => do return some (← Json.toText v)
    | _ => .ok d
  close d := do return ⟨← Json.needed "name" d⟩

end DocIndex
