/-
  BUCKETS: search results by category.

  One list of entries per category, each in the order in which entries came.  A bucket takes
  `bucketLimit` entries and no more.  Walking through the results goes bucket by bucket, in the
  order of the categories.
-/
import DocIndex.Entry

namespace DocIndex

/-- Entries by category. -/
structure Buckets where
  classes : List Entry := []
  interfaces : List Entry := []
  enums : List Entry := []
  annotations : List Entry := []
  methods : List Entry := []
  fields : List Entry := []
  deriving Repr, DecidableEq

namespace Buckets

/-- How many entries a bucket takes. -/
def bucketLimit : Nat := 5

/-- The entries of a category. -/
def get (b : Buckets) : Category → List Entry
  | .type .classType => b.classes
  | .type .interfaceType => b.interfaces
  | .type .enumType => b.enums
  | .type .annotationType => b.annotations
  | .method => b.methods
  | .field => b.fields

/-- The buckets with other entries for a category. -/
def set (b : Buckets) (c : Category) (es : List Entry) : Buckets :=
  match c with
  | .type .classType => { b with classes := es }
  | .type .interfaceType => { b with interfaces := es }
  | .type .enumType => { b with enums := es }
  | .type .annotationType => { b with annotations := es }
  | .method => { b with methods := es }
  | .field => { b with fields := es }

/-- The buckets with an entry added to its category, if there is room. -/
def push (b : Buckets) (e : Entry) : Buckets :=
  let es := b.get e.category
  if es.length < bucketLimit then b.set e.category (es ++ [e]) else b

/-- How many entries there are. -/
def total (b : Buckets) : Nat := Category.all.foldr (fun c n => (b.get c).length + n) 0

def isEmpty (b : Buckets) : Bool := b.total == 0

/-- All entries in the order in which they are walked through. -/
def flatten (b : Buckets) : List Entry := Category.all.flatMap b.get

/-- The categories that have entries, with their entries. -/
def sections (b : Buckets) : List (Category × List Entry) :=
  (Category.all.map fun c => (c, b.get c)).filter fun (_, es) => !es.isEmpty

/-- The buckets as a value. -/
def toJson (b : Buckets) : Json :=
  .object (Category.all.map fun c => (c.bucketName, .list ((b.get c).map Entry.toJson)))

end Buckets
end DocIndex
