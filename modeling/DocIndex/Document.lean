/-
  DOCUMENTS: packages with their types, and the search index beside them.

  A type may declare further types inside it, at any depth.  `TypeDecl.listing` is the PREORDER of a
  type: itself, then its inner types in their order, each with its own.
-/
import DocIndex.Entry

namespace DocIndex

/-- A declared type with the types declared inside it. -/
structure TypeDecl where
  kind : TypeKind
  name : String
  qualifiedName : String
  inner : List TypeDecl := []

/-- A package and its types. -/
structure Package where
  name : String
  types : List TypeDecl

/-- A documentation document. -/
structure Document where
  packages : List Package
  index : List Entry

/-- One declared type as look-ups give it. -/
structure Record where
  qualifiedName : String
  name : String
  packageName : String
  kind : TypeKind
  deriving Repr, DecidableEq

/-- The record of a type directly in a package. -/
def Record.ofName (kind : TypeKind) (package name : String) : Record where
  qualifiedName := qualify package name
  name := name
  packageName := package
  kind := kind

/-- The record as a value. -/
def Record.toJson (r : Record) : Json :=
  .object [("kind", .string r.kind.name), ("name", .string r.name),
    ("packageName", .string r.packageName), ("qualifiedName", .string r.qualifiedName)]

namespace TypeDecl

/-- A type directly in a package, with the given inner types. -/
def ofName (kind : TypeKind) (package name : String) (inner : List TypeDecl) : TypeDecl where
  kind := kind
  name := name
  qualifiedName := qualify package name
  inner := inner

mutual

/-- The records of a type and of all types inside it, in preorder. -/
def listing (package : String) : TypeDecl → List Record
  | ⟨kind, name, qualifiedName, inner⟩ =>
    ⟨qualifiedName, name, package, kind⟩ :: listings package inner

/-- The records of several types, one listing after the other. -/
def listings (package : String) : List TypeDecl → List Record
  | [] => []
  | t :: ts => listing package t ++ listings package ts

end

mutual

/-- How many types a type stands for, itself included. -/
def count : TypeDecl → Nat
  | ⟨_, _, _, inner⟩ => countAll inner + 1

/-- How many types stand in several types. -/
def countAll : List TypeDecl → Nat
  | [] => 0
  | t :: ts => count t + countAll ts

end

mutual

/-- The type as a value; an empty list of inner types is left out. -/
def toJson : TypeDecl → Json
  | ⟨kind, name, qualifiedName, inner⟩ =>
    .object <|
      [("kind", .string kind.name), ("name", .string name),
        ("qualifiedName", .string qualifiedName)] ++
      (match inner with
        | [] => []
        | t :: ts => [("innerTypes", .list (toJsons (t :: ts)))])

/-- Several types as values. -/
def toJsons : List TypeDecl → List Json
  | [] => []
  | t :: ts => toJson t :: toJsons ts

end

end TypeDecl

/-- The package as a value. -/
def Package.toJson (p : Package) : Json :=
  .object [("name", .string p.name), ("types", .list (TypeDecl.toJsons p.types))]

namespace Document

/-- All declared types, packages in their order, types in preorder. -/
def listing (d : Document) : List Record :=
  d.packages.flatMap fun p => TypeDecl.listings p.name p.types

/-- How many types the document declares. -/
def typeCount (d : Document) : Nat :=
  d.packages.foldr (fun p n => TypeDecl.countAll p.types + n) 0

/-- The document as a value. -/
def toJson (d : Document) : Json :=
  .object [("packages", .list (d.packages.map Package.toJson)),
    ("searchIndex", .list (d.index.map Entry.toJson))]

end Document
end DocIndex
