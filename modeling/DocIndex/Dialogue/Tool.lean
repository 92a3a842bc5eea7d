/-
  THE TOOLS of the handbook.

  A tool takes its arguments as an object.  What it answers is a text; arguments that do not fit and
  a type that is not there are told as a text too.
-/
import DocIndex.Handbook
import DocIndex.Request.Schema

namespace DocIndex

/-- What a client can call. -/
inductive Tool where
  | lookupType
  | resolveType
  | search
  deriving Repr, DecidableEq

namespace Tool

/-- The tools, in the order of their names. -/
def all : List Tool := [.lookupType, .resolveType, .search]

def name : Tool → String
  | .lookupType => "lookup_type"
  | .resolveType => "resolve_type"
  | .search => "search"

/-- The tool of a name. -/
def ofName? (name : String) : Option Tool := all.find? (·.name = name)

/-- What a tool is for. -/
def description : Tool → String
  | .lookupType =>
    "Look up a documented type by qualified or simple name. Shows its kind, package and link " ++
    "target, and lists its indexed methods and fields."
  | .resolveType =>
    "Resolve a type expression such as 'Map<String, List<User>>' or 'User[]'. Each identifier " ++
    "is linked to a documented type (qualified name first, then simple name) or marked " ++
    "external. Delimiters and primitive keywords are kept as text."
  | .search =>
    "Search the API documentation. Case-insensitive substring match over names, qualified names " ++
    "and method signatures. Results are grouped into classes, interfaces, enums, annotations, " ++
    "methods and fields (at most 5 per group, 30 overall). Queries shorter than 2 characters " ++
    "return nothing."

/-- What a call of the tool looks like. -/
def schema : Tool → Schema
  | .lookupType => .lookupType
  | .resolveType => .resolveType
  | .search => .search

def toJson (t : Tool) : Json :=
  .object [
    ("description", .string t.description),
    ("inputSchema", t.schema.toJson),
    ("name", .string t.name)]

/-- A call whose arguments do not fit. -/
def badArguments (f : Json.Fault) : String := "failed to deserialize parameters: " ++ f.message

/-- The answer of a tool, or what was wrong. -/
def call (h : Handbook) (t : Tool) (arguments : Json) : Except String String :=
  match t with
  | .lookupType => do
    let r ← (LookupRequest.form.read arguments).mapError badArguments
    (h.answerLookup r).mapError Handbook.UnknownType.message
  | .resolveType => do
    return h.answerResolve (← (ResolveRequest.form.read arguments).mapError badArguments)
  | .search => do
    return h.answerSearch (← (SearchRequest.form.read arguments).mapError badArguments)

end Tool

end DocIndex
