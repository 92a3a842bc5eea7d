/-
  CATEGORIES of what an index lists.

  Four kinds of type and two kinds of member.  The order of `Category.all` is the order in which
  results are shown and walked through.
-/
namespace DocIndex

/-- A kind of declared type. -/
inductive TypeKind where
  | classType
  | interfaceType
  | enumType
  | annotationType
  deriving Repr, DecidableEq

/-- What an index entry is: a type of some kind, or a member of a type. -/
inductive Category where
  | type (kind : TypeKind)
  | method
  | field
  deriving Repr, DecidableEq

namespace TypeKind

def all : List TypeKind := [.classType, .interfaceType, .enumType, .annotationType]

/-- The name of the kind in documents and answers. -/
def name : TypeKind → String
  | .classType => "class"
  | .interfaceType => "interface"
  | .enumType => "enum"
  | .annotationType => "annotation"

/-- The kinds by name. -/
def known : List (String × TypeKind) := all.map fun k => (k.name, k)

end TypeKind

namespace Category

def all : List Category := TypeKind.all.map .type ++ [.method, .field]

/-- The name of the category in documents and answers. -/
def name : Category → String
  | .type kind => kind.name
  | .method => "method"
  | .field => "field"

/-- The categories by name. -/
def known : List (String × Category) := all.map fun c => (c.name, c)

/-- The category of a name. -/
def ofName? (name : String) : Option Category := known.lookup name

/-- The name of the bucket that collects the category. -/
def bucketName : Category → String
  | .type .classType => "classes"
  | .type .interfaceType => "interfaces"
  | .type .enumType => "enums"
  | .type .annotationType => "annotations"
  | .method => "methods"
  | .field => "fields"

/-- The heading above the results of the category. -/
def heading : Category → String
  | .type .classType => "Classes"
  | .type .interfaceType => "Interfaces"
  | .type .enumType => "Enums"
  | .type .annotationType => "Annotations"
  | .method => "Methods"
  | .field => "Fields"

/-- The letter on the badge of a result. -/
def badge : Category → String
  | .type .classType => "C"
  | .type .interfaceType => "I"
  | .type .enumType => "E"
  | .type .annotationType => "A"
  | .method => "M"
  | .field => "F"

/-- Is it a kind of type? -/
def isType : Category → Bool
  | .type _ => true
  | _ => false

/-- The place of the category in the order of display. -/
def index (c : Category) : Nat := all.idxOf c

end Category
end DocIndex
