/-
  PATTERNS OF VALUES.

  A pattern says which values are accepted where only their sort matters and nothing is kept of
  them.  A record is accepted as an object, where members that are no fields do not matter and an
  optional field may be left out, or as the list of all its fields in their order.  A choice among
  names is accepted as the name, or as an object with the name for its only key and nothing under
  it.  A tagged value is a record of one of several kinds: an object names the kind under a key of
  its own, a list in front, and the kind is given by its name or by its place among the kinds.
-/
import DocIndex.Json.Basic

namespace DocIndex.Json

/-- Which values are accepted. -/
inductive Pattern where
  | boolean
  | string
  /-- one of these names -/
  | among (names : List String)
  /-- any object -/
  | object
  /-- `null`, or a value of the pattern -/
  | optional (p : Pattern)
  | listOf (p : Pattern)
  /-- an object with any keys, and members of the pattern -/
  | mapOf (p : Pattern)
  | record (fields : List (String × Pattern))
  | tagged (key : String) (kinds : List (String × Pattern))

/-- How a tagged value says of which kind it is. -/
inductive Tag where
  | name (s : String)
  /-- counted from zero -/
  | place (i : Nat)

/-- The tag that a value is, if it is one: a string, or an integer that is not negative. -/
def tag? : Json → Option Tag
  | .string s => some (.name s)
  | .number (.integer (.ofNat i)) => some (.place i)
  | _ => none

/-- Is there nothing in the value?  That is `null` or the empty object. -/
def isNothing : Json → Bool
  | .null => true
  | .object [] => true
  | _ => false

namespace Pattern

/-- May a field of this pattern be left out? -/
def isOptional : Pattern → Bool
  | .optional _ => true
  | _ => false

mutual

/-- Does the pattern accept the value? -/
def fits : Pattern → Json → Bool
  | .boolean, .bool _ => true
  | .string, .string _ => true
  | .among names, .string s => names.contains s
  | .among names, .object [(s, content)] => names.contains s && content.isNothing
  | .object, .object _ => true
  | .optional _, .null => true
  | .optional p, v => p.fits v
  | .listOf p, .list vs => vs.all p.fits
  | .mapOf p, .object ms => ms.all fun m => p.fits m.2
  | .record fields, .object ms => fitsMembers fields ms
  | .record fields, .list vs => fitsItems fields vs
  | .tagged key kinds, .object ms =>
    match (ms.lookup key).bind tag? with
    | some tag => fitsKind kinds tag (.object ms)
    | none => false
  | .tagged _ kinds, .list (v :: vs) =>
    match tag? v with
    | some tag => fitsKind kinds tag (.list vs)
    | none => false
  | _, _ => false

/-- Do the members of an object hold the fields? -/
def fitsMembers : List (String × Pattern) → List (String × Json) → Bool
  | [], _ => true
  | (key, p) :: fields, ms =>
    (match ms.lookup key with
      | some v => p.fits v
      | none => p.isOptional) && fitsMembers fields ms

/-- Are the values of a list the fields, one by one? -/
def fitsItems : List (String × Pattern) → List Json → Bool
  | [], [] => true
  | (_, p) :: fields, v :: vs => p.fits v && fitsItems fields vs
  | _, _ => false

/-- Is the value one of the kind that the tag gives? -/
def fitsKind : List (String × Pattern) → Tag → Json → Bool
  | [], _, _ => false
  | (name, p) :: kinds, .name s, v => if name = s then p.fits v else fitsKind kinds (.name s) v
  | (_, p) :: _, .place 0, v => p.fits v
  | _ :: kinds, .place (i + 1), v => fitsKind kinds (.place i) v

end

end Pattern
end DocIndex.Json
