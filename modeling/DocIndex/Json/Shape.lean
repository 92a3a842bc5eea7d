/-
  FROM A VALUE to a record.

  A value that is already in memory is turned into a record by a `Form`: the record's fields by
  name, gathered in a draft.  An object offers its members in their order, a list its elements in
  the order of the fields, so the first member that does not fit is the one reported.  What is
  still missing is looked at only when everything present has been accepted.
-/
import DocIndex.Json.Fault

namespace DocIndex.Json

/-- How a record `α` is made from a value, through a draft `δ`. -/
structure Form (δ α : Type) where
  /-- the name of the record in messages -/
  name : String
  /-- the fields, in the order in which a list gives them -/
  fields : List String
  blank : δ
  /-- takes a value for the field; a member that is no field leaves the draft as it is -/
  fill : δ → String × Json → Except Fault δ
  /-- the record, or the first required field without a value -/
  close : δ → Except String α

/-- The record that a value holds. -/
def Form.read {δ α : Type} (form : Form δ α) : Json → Except Fault α
  | .object members => do
    let draft ← members.foldlM form.fill form.blank
    match form.close draft with
    | .ok a => return a
    | .error field => throw (.missingField field)
  | .list items => do
    let draft ← (form.fields.zip items).foldlM form.fill form.blank
    match form.close draft with
    | .ok a =>
      if form.fields.length < items.length then throw (.tooMany items.length) else return a
    | .error field => throw (.tooFew (form.fields.idxOf field) form.name form.fields.length)
  | v => throw (.wrongSort (found v) (.record form.name))

/-- A string. -/
def toText : Json → Except Fault String
  | .string s => .ok s
  | v => .error (.wrongSort (found v) .text)

/-- A string, or nothing for `null`. -/
def toText? : Json → Except Fault (Option String)
  | .null => .ok none
  | v => (toText v).map some

/-- The name among `known`. -/
def nameAmong {α : Type} (known : List (String × α)) (name : String) : Except Fault α :=
  match known.lookup name with
  | some a => .ok a
  | none => .error (.unknownName name (known.map (·.1)))

/-- One of several names: a string, or an object with the name as its only key and `null` as its
    content. -/
def toChoice {α : Type} (known : List (String × α)) : Json → Except Fault α
  | .string name => nameAmong known name
  | .object [(name, content)] => do
    let a ← nameAmong known name
    match content with
    | .null => return a
    | v => throw (.wrongSort (found v) .nothing)
  | .object _ => .error .notSingleKey
  | v => .error (.wrongSort (found v) .choice)

/-- A required field of a draft. -/
def needed {α : Type} (field : String) : Option α → Except String α
  | some a => .ok a
  | none => .error field

end DocIndex.Json
