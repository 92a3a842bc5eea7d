/-
  DESTINATIONS: where choosing a result leads.

  A type leads to its own page, a member to a place on the page of the type that declares it.  The
  owner of a member is the type that its entry names; an entry without one falls back on the part of
  the qualified name before the last, the way members are named.
-/
import DocIndex.Entry

namespace DocIndex

/-- Where a result leads. -/
inductive Destination where
  | type (packageName simpleName qualifiedName : String)
  | member (category : Category) (packageName typeName memberName qualifiedName : String)
  deriving Repr, DecidableEq

/-- The part of a dotted name before its last part; empty if there is none. -/
def partBeforeLast (name : String) : String :=
  let behind := name.toList.reverse.dropWhile (· ≠ '.')
  String.ofList ((behind.drop 1).takeWhile (· ≠ '.')).reverse

namespace Destination

/-- Where an entry leads. -/
def ofEntry (e : Entry) : Destination :=
  match e.category with
  | .type _ => .type e.packageName e.name e.qualifiedName
  | c => .member c e.packageName (e.typeName.getD (partBeforeLast e.qualifiedName)) e.name
      e.qualifiedName

def qualifiedName : Destination → String
  | .type _ _ q => q
  | .member _ _ _ _ q => q

def packageName : Destination → String
  | .type p _ _ => p
  | .member _ p _ _ _ => p

/-- The simple name of the type whose page is shown. -/
def typeName : Destination → String
  | .type _ n _ => n
  | .member _ _ t _ _ => t

/-- The fragment that identifies the place. -/
def fragment (d : Destination) : String := "#" ++ d.qualifiedName

end Destination
end DocIndex
