/-
  JSON VALUES.

  An object is a list of members in the order in which they are to be written.  Reading a text
  produces objects whose keys are distinct and ascending (`Json.insert`), writing keeps whatever
  order it is given; so the same type serves a parsed document and an answer whose fields come in
  the order of a declaration.

  A number is an integer when it was written as one and fits in 64 bits, signed or unsigned;
  everything else is a double.
-/
namespace DocIndex

/-- A JSON number. -/
inductive Number where
  | integer (value : Int)
  | double (value : Float)

/-- A JSON value. -/
inductive Json where
  | null
  | bool (value : Bool)
  | number (value : Number)
  | string (value : String)
  | list (items : List Json)
  | object (members : List (String × Json))

namespace Json

instance : Inhabited Json := ⟨.null⟩

/-- The members with `key` bound to `value`, in ascending order of keys; an earlier binding of
    the key is replaced. -/
def insert (key : String) (value : Json) : List (String × Json) → List (String × Json)
  | [] => [(key, value)]
  | (k, v) :: rest =>
    if key < k then (key, value) :: (k, v) :: rest
    else if key = k then (key, value) :: rest
    else (k, v) :: insert key value rest

/-- The member of an object under a key; `none` for anything but an object. -/
def get? (key : String) : Json → Option Json
  | .object members => members.lookup key
  | _ => none

/-- The content of a string. -/
def string? : Json → Option String
  | .string s => some s
  | _ => none

/-- An integer as a value. -/
def ofNat (n : Nat) : Json := .number (.integer n)

/-- A list of strings as a value. -/
def strings (ss : List String) : Json := .list (ss.map .string)

end Json
end DocIndex
