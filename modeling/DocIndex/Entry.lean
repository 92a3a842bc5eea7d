/-
  INDEX ENTRIES.

  An entry names a type or a member so that it can be found and shown.  A member carries the simple
  name of the type that declares it, its signature and its return type where they are known.
-/
import DocIndex.Category
import DocIndex.Json.Shape

namespace DocIndex

/-- `package.name`, or the bare name in the unnamed package. -/
def qualify (package name : String) : String :=
  if package.isEmpty then name else package ++ "." ++ name

/-- An entry of the search index. -/
structure Entry where
  category : Category
  name : String
  qualifiedName : String
  signature : Option String := none
  packageName : String
  typeName : Option String := none
  returnType : Option String := none
  deriving Repr, DecidableEq

/-- The type that declares a member. -/
structure Owner where
  package : String
  name : String
  qualifiedName : String
  deriving Repr, DecidableEq

namespace Entry

/-- The entry of a type. -/
def ofType (kind : TypeKind) (package name : String) : Entry where
  category := .type kind
  name := name
  qualifiedName := qualify package name
  packageName := package

/-- The entry of a member of `owner`. -/
def ofMember (category : Category) (owner : Owner) (name : String) : Entry where
  category := category
  name := name
  qualifiedName := owner.qualifiedName ++ "." ++ name
  packageName := owner.package
  typeName := some owner.name

/-! ## Entries as JSON -/

/-- What is known of an entry while it is read. -/
structure Draft where
  category : Option Category := none
  name : Option String := none
  qualifiedName : Option String := none
  signature : Option String := none
  packageName : Option String := none
  typeName : Option String := none
  returnType : Option String := none

/-- Takes a member of an entry's object. -/
def Draft.fill (d : Draft) : String × Json → Except Json.Fault Draft
  | ("category", v) => do return { d with category := some (← Json.toChoice Category.known v) }
  | ("name", v) => do return { d with name := some (← Json.toText v) }
  | ("qualifiedName", v) => do return { d with qualifiedName := some (← Json.toText v) }
  | ("signature", v) => do return { d with signature := ← Json.toText? v }
  | ("packageName", v) => do return { d with packageName := some (← Json.toText v) }
  | ("typeName", v) => do return { d with typeName := ← Json.toText? v }
  | ("returnType", v) => do return { d with returnType := ← Json.toText? v }
  | _ => .ok d

/-- The entry, if the four required fields are there. -/
def Draft.close (d : Draft) : Except String Entry := do
  return {
    category := ← Json.needed "category" d.category
    name := ← Json.needed "name" d.name
    qualifiedName := ← Json.needed "qualifiedName" d.qualifiedName
    signature := d.signature
    packageName := ← Json.needed "packageName" d.packageName
    typeName := d.typeName
    returnType := d.returnType }

/-- How an entry is made from a value. -/
def form : Json.Form Draft Entry where
  name := "SearchIndexEntry"
  fields :=
    ["category", "name", "qualifiedName", "signature", "packageName", "typeName", "returnType"]
  blank := {}
  fill := Draft.fill
  close := Draft.close

/-- The entry that a value holds. -/
def ofJson (v : Json) : Except Json.Fault Entry := form.read v

/-- A member that is left out when there is no text for it. -/
def optional (key : String) : Option String → List (String × Json)
  | some s => [(key, .string s)]
  | none => []

/-- The entry as a value. -/
def toJson (e : Entry) : Json :=
  .object <|
    [("category", .string e.category.name), ("name", .string e.name),
      ("qualifiedName", .string e.qualifiedName)] ++
    optional "signature" e.signature ++
    [("packageName", .string e.packageName)] ++
    optional "typeName" e.typeName ++
    optional "returnType" e.returnType

end Entry
end DocIndex
