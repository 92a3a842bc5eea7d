/-
  READING A DOCUMENT.

  Packages and types are read straight from the text, so a fault is the first one in the order of
  the text, members that are no fields are passed over, and a field may not come twice.  The search
  index is read as a list of values first and its entries are made from the values afterwards: a
  fault of the text anywhere in the index comes before a fault of an entry.

  Generators may know categories that this library does not.  An index entry that is an object with
  such a category is set aside, whatever else it holds; nothing else is forgiven.
-/
import DocIndex.Document
import DocIndex.Json.Reader

namespace DocIndex

open Json (Fault After Layout)

/-- An index entry that was set aside for its category. -/
structure Unlisted where
  category : String
  /-- the qualified name, if the entry had one -/
  name : String
  deriving Repr, DecidableEq

namespace Document

/-! ## The index -/

/-- What is set aside: an object whose category is a name that is not known. -/
def unlisted? (v : Json) : Option Unlisted := do
  let category ← (v.get? "category").bind Json.string?
  if (Category.ofName? category).isSome then none
  else some ⟨category, ((v.get? "qualifiedName").bind Json.string?).getD ""⟩

/-- The entries of an index, and what was set aside. -/
def entries : List Json → Except Fault (List Entry × List Unlisted)
  | [] => .ok ([], [])
  | v :: vs =>
    match unlisted? v with
    | some u => do
      let (es, us) ← entries vs
      return (es, u :: us)
    | none => do
      let e ← Entry.ofJson v
      let (es, us) ← entries vs
      return (e :: es, us)

/-! ## Types -/

/-- What is known of a type while it is read. -/
structure TypeDraft where
  kind : Option TypeKind := none
  name : Option String := none
  qualifiedName : Option String := none
  inner : Option (List TypeDecl) := none

/-- How a type is read; `nested` says whether the kind may be written with a bracket, `inner`
    reads the list of inner types. -/
def typeLayout (nested : Bool) (inner : List Char → Except Fault (After (List TypeDecl))) :
    Layout TypeDraft TypeDecl where
  name := "TypeInfo"
  fields := ["kind", "name", "qualifiedName", "innerTypes"]
  blank := {}
  filled d
    | "kind" => d.kind.isSome
    | "name" => d.name.isSome
    | "qualifiedName" => d.qualifiedName.isSome
    | _ => d.inner.isSome
  fill d
    | "kind", cs => do
      let (kind, cs) ← Json.choice TypeKind.known nested cs
      return ({ d with kind := some kind }, cs)
    | "name", cs => do
      let (name, cs) ← Json.text cs
      return ({ d with name := some name }, cs)
    | "qualifiedName", cs => do
      let (name, cs) ← Json.text cs
      return ({ d with qualifiedName := some name }, cs)
    | _, cs => do
      let (ts, cs) ← inner cs
      return ({ d with inner := some ts }, cs)
  close d := do
    return {
      kind := ← Json.needed "kind" d.kind
      name := ← Json.needed "name" d.name
      qualifiedName := ← Json.needed "qualifiedName" d.qualifiedName
      inner := d.inner.getD [] }

/-- A type, with at most `depth` further brackets open.  A type takes one, the list of its
    inner types another. -/
def readType (rounds : Nat) : Nat → List Char → Except Fault (After TypeDecl)
  | 0 => Json.record "TypeInfo" rounds (none : Option (Layout TypeDraft TypeDecl))
  | depth + 1 =>
    let inner := match depth with
      | 0 => Json.listOf rounds none
      | depth + 1 => Json.listOf rounds (some (readType rounds depth))
    Json.record "TypeInfo" rounds (some (typeLayout (0 < depth) inner))

/-- A list of types, with at most `depth` further brackets open. -/
def readTypes (rounds : Nat) : Nat → List Char → Except Fault (After (List TypeDecl))
  | 0 => Json.listOf rounds none
  | depth + 1 => Json.listOf rounds (some (readType rounds depth))

/-! ## Packages -/

/-- What is known of a package while it is read. -/
structure PackageDraft where
  name : Option String := none
  types : Option (List TypeDecl) := none

/-- How a package is read inside `depth` further brackets. -/
def packageLayout (rounds depth : Nat) : Layout PackageDraft Package where
  name := "PackageInfo"
  fields := ["name", "types"]
  blank := {}
  filled d
    | "name" => d.name.isSome
    | _ => d.types.isSome
  fill d
    | "name", cs => do
      let (name, cs) ← Json.text cs
      return ({ d with name := some name }, cs)
    | _, cs => do
      let (ts, cs) ← readTypes rounds depth cs
      return ({ d with types := some ts }, cs)
  close d := do
    return { name := ← Json.needed "name" d.name, types := d.types.getD [] }

/-! ## The document -/

/-- A document that was read, and what its index set aside. -/
structure Loaded where
  document : Document
  unlisted : List Unlisted

/-- What is known of a document while it is read. -/
structure Draft where
  packages : Option (List Package) := none
  index : Option (List Entry × List Unlisted) := none

/-- How a document is read: the bracket around it, a list and a package are open before a package's
    types. -/
def layout (rounds depth : Nat) : Layout Draft Loaded where
  name := "DocumentationModel"
  fields := ["packages", "searchIndex"]
  blank := {}
  filled d
    | "packages" => d.packages.isSome
    | _ => d.index.isSome
  fill d
    | "packages", cs => do
      let package := Json.record "PackageInfo" rounds (some (packageLayout rounds (depth - 2)))
      let (ps, cs) ← Json.listOf rounds (some package) cs
      return ({ d with packages := some ps }, cs)
    | _, cs => do
      let (vs, cs) ← Json.listOf rounds (some (Json.value rounds (depth - 1))) cs
      return ({ d with index := some (← entries vs) }, cs)
  close d :=
    let (index, unlisted) := d.index.getD ([], [])
    .ok ⟨⟨d.packages.getD [], index⟩, unlisted⟩

/-- The document that a text holds. -/
def parse (text : String) : Except Fault Loaded := do
  let cs := text.toList
  let rounds := cs.length + 1
  Json.finish <|
    ← Json.record "DocumentationModel" rounds (some (layout rounds (Json.nestingLimit - 1))) cs

end Document
end DocIndex
