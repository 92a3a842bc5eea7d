/-
  THE CATALOG of declared types.

  Records are kept in the order in which they were added.  A qualified name belongs to the first
  record that brought it: a later record with the same qualified name is dropped, and with it its
  simple name.  Two hash indexes lead from names to places in the list of records; a simple name
  leads to the first record that has it.

  The catalog of a document is filled by a walk through its packages, from each type to the types
  inside of it.
-/
import Std.Data.HashMap
import DocIndex.Document

namespace DocIndex

/-- Declared types, found by qualified and by simple name. -/
structure Catalog where
  records : Array Record
  places : Std.HashMap String Nat
  simplePlaces : Std.HashMap String Nat

namespace Catalog

def empty : Catalog := ⟨#[], ∅, ∅⟩

/-- Is the qualified name taken? -/
def has (c : Catalog) (qualifiedName : String) : Bool := c.places.contains qualifiedName

/-- The catalog with a record added, unless its qualified name is taken. -/
def insert (c : Catalog) (r : Record) : Catalog :=
  if c.has r.qualifiedName then c
  else {
    records := c.records.push r
    places := c.places.insert r.qualifiedName c.records.size
    simplePlaces := c.simplePlaces.insertIfNew r.name c.records.size }

/-- The records of a list, added one after the other. -/
def ofList (rs : List Record) : Catalog := rs.foldl insert empty

/-- The qualified names of the records that adding the list would drop, in order. -/
def dropped (c : Catalog) : List Record → List String
  | [] => []
  | r :: rs =>
    if c.has r.qualifiedName then r.qualifiedName :: (c.insert r).dropped rs
    else (c.insert r).dropped rs

/-- The record with a qualified name. -/
def findQualified? (c : Catalog) (name : String) : Option Record :=
  c.places[name]?.bind (c.records[·]?)

/-- The first record with a simple name. -/
def findSimple? (c : Catalog) (name : String) : Option Record :=
  c.simplePlaces[name]?.bind (c.records[·]?)

/-- The record that a name means: by its qualified name, else by its simple name. -/
def find? (c : Catalog) (name : String) : Option Record :=
  (c.findQualified? name).or (c.findSimple? name)

mutual

/-- The catalog with a type added, and behind it the types inside of it.  Whether the type itself is kept
    or dropped makes no difference to these: each is judged by its own qualified name. -/
def insertTree (c : Catalog) (package : String) : TypeDecl → Catalog
  | ⟨kind, name, qualifiedName, inner⟩ =>
    (c.insert ⟨qualifiedName, name, package, kind⟩).insertTrees package inner

/-- The catalog with several types added, one after the other. -/
def insertTrees (c : Catalog) (package : String) : List TypeDecl → Catalog
  | [] => c
  | t :: ts => (c.insertTree package t).insertTrees package ts

end

/-- The catalog of all types of a document, by a walk through its packages. -/
def ofDocument (d : Document) : Catalog :=
  d.packages.foldl (fun c p => c.insertTrees p.name p.types) empty

/-- The qualified names that a document declares again. -/
def repeated (d : Document) : List String := empty.dropped d.listing

end Catalog
end DocIndex
