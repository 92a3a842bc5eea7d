/-
  THE HANDBOOK: a document with the catalog of its types, and the answers it gives.

  A search lists the results under the headings of their categories; a resolution shows the linked
  expression and where its links lead; a look-up shows a type and its members.  The members of a
  type are the entries that name its package and its simple name.
-/
import DocIndex.Json.Printer
import DocIndex.Request
import DocIndex.Search.Row
import DocIndex.Search.Scan
import DocIndex.TypeExpr.Link

namespace DocIndex

/-- A document and its types. -/
structure Handbook where
  document : Document
  catalog : Catalog

namespace Handbook

/-- The handbook of a document. -/
def ofDocument (d : Document) : Handbook := ⟨d, Catalog.ofDocument d⟩

/-- The results of a query. -/
def search (h : Handbook) (query : String) : Buckets := DocIndex.search h.document.index query

/-! ## Search -/

/-- A result in a listing. -/
def resultLines (e : Entry) : String :=
  let r := Row.ofEntry e
  "  [" ++ r.category.badge ++ "] " ++ r.label ++ "\n      " ++ r.context ++ "\n"

/-- The results of a category in a listing. -/
def sectionLines : Category × List Entry → String
  | (c, es) => "\n" ++ c.heading ++ "\n" ++ String.join (es.map resultLines)

/-- The results of a query as plain text. -/
def searchText (b : Buckets) (query : String) : String :=
  if b.isEmpty then "No results found for '" ++ query ++ "'."
  else
    "Results for '" ++ query ++ "' (" ++ toString b.total ++ "):\n" ++
      String.join (b.sections.map sectionLines)

/-- The answer to a search. -/
def answerSearch (h : Handbook) (r : SearchRequest) : String :=
  if isSearchable r.query then
    let b := h.search r.query
    match r.format with
    | .text => searchText b r.query
    | .html => Markup.html (resultMarkup b r.query)
    | .json => b.toJson.pretty
  else
    "Query '" ++ r.query ++ "' is too short. Type at least " ++ toString queryLimit ++
      " characters."

/-! ## Resolution -/

/-- Where a segment leads, in a listing. -/
def segmentLine : Segment → String
  | .text _ => ""
  | .link target label => "  " ++ label ++ " -> " ++ target ++ "\n"
  | .external label => "  " ++ label ++ " (external)\n"

/-- The answer to a request to resolve. -/
def answerResolve (h : Handbook) (r : ResolveRequest) : String :=
  let segments := h.catalog.link r.expression
  match r.format with
  | .text => Segment.plain segments ++ "\n" ++ String.join (segments.map segmentLine)
  | .html => Segment.html segments
  | .json => (Json.list (segments.map Segment.toJson)).pretty

/-! ## Look-up -/

/-- Is the entry a member of the type? -/
def isMember (r : Record) (e : Entry) : Bool :=
  !e.category.isType && e.packageName == r.packageName && e.typeName == some r.name

/-- The members of a type, in the order of the index. -/
def members (h : Handbook) (r : Record) : List Entry := h.document.index.filter (isMember r)

/-- A member in a listing. -/
def memberLine (e : Entry) : String :=
  "  [" ++ e.category.badge ++ "] " ++ Row.labelOf e ++
    (match e.returnType with
      | some type => " : " ++ type
      | none => "") ++ "\n"

/-- No type has the name. -/
structure UnknownType where
  name : String
  deriving Repr, DecidableEq

def UnknownType.message (u : UnknownType) : String :=
  "Type '" ++ u.name ++ "' not found in the documentation."

/-- The sheet of a type with its members.  A type without members has no list of them. -/
def sheet (r : Record) (members : List Entry) : String :=
  let head := r.kind.name ++ " " ++ r.qualifiedName ++ "\n  package: " ++ r.packageName ++
    "\n  link: #" ++ r.qualifiedName ++ "\n"
  match members with
  | [] => head
  | es => head ++ "\nMembers\n" ++ String.join (es.map memberLine)

/-- The answer to a request to look up. -/
def answerLookup (h : Handbook) (r : LookupRequest) : Except UnknownType String :=
  match h.catalog.find? r.name with
  | none => .error ⟨r.name⟩
  | some record => .ok (sheet record (h.members record))

end Handbook
end DocIndex
