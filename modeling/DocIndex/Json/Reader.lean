/-
  READING JSON, element by element.

  The readers here stop at the first thing that is wrong, in the order of the text.  Lists and
  objects may be nested `nestingLimit` deep; the recursion is on the nesting that is still allowed.
  The loops over elements and members take a number of ROUNDS; each round reads at least one
  character, so the length of the text is always enough.

  `items` and `members` are the loops, each with its rules on commas: an element may stand first or
  after a comma, never alone and never after a comma that is followed by the closing bracket.
  `value` reads any value, `listOf` a list of one sort of element, and `record` a record whose
  fields are described by a `Layout`.  `choice` reads one of a list of names.
-/
import DocIndex.Json.Pass
import DocIndex.Json.Shape

namespace DocIndex.Json

/-- How many lists and objects may be open at once. -/
def nestingLimit : Nat := 127

/-! ## Elements and members -/

/-- The text of the next element of a list, or nothing at the closing bracket. -/
def nextItem (first : Bool) (cs : List Char) : Except Fault (Option (List Char)) :=
  match spaced cs with
  | [] => .error (.ended .list)
  | c :: rest =>
    if c = ']' then .ok none
    else if first then .ok (some (c :: rest))
    else if c = ',' then
      match spaced rest with
      | [] => .error (.ended .value)
      | d :: rest => if d = ']' then .error .trailingComma else .ok (some (d :: rest))
    else .error .expectedCommaOrBracket

/-- The text of the next key of an object, after its opening quote, or nothing at the closing
    brace. -/
def nextKey (first : Bool) (cs : List Char) : Except Fault (Option (List Char)) :=
  match spaced cs with
  | [] => .error (.ended .object)
  | c :: rest =>
    if c = '}' then .ok none
    else if first then
      if c = '"' then .ok (some rest) else .error .keyNotString
    else if c = ',' then
      match spaced rest with
      | [] => .error (.ended .value)
      | d :: rest =>
        if d = '"' then .ok (some rest)
        else if d = '}' then .error .trailingComma
        else .error .keyNotString
    else .error .expectedCommaOrBrace

/-- The text after the colon between a key and its value. -/
def colon (cs : List Char) : Except Fault (List Char) :=
  match spaced cs with
  | [] => .error (.ended .object)
  | c :: rest => if c = ':' then .ok rest else .error .expectedColon

/-- The text after the bracket that closes a list. -/
def endList (cs : List Char) : Except Fault (List Char) :=
  match spaced cs with
  | [] => .error (.ended .list)
  | c :: rest =>
    if c = ']' then .ok rest
    else if c = ',' then
      if (spaced rest).head? = some ']' then .error .trailingComma else .error .trailingText
    else .error .trailingText

/-- The text after the brace that closes an object. -/
def endObject (cs : List Char) : Except Fault (List Char) :=
  match spaced cs with
  | [] => .error (.ended .object)
  | c :: rest =>
    if c = '}' then .ok rest
    else if c = ',' then .error .trailingComma
    else .error .trailingText

/-- The elements of a list up to its closing bracket. -/
def items {α : Type} (item : List Char → Except Fault (After α)) :
    Nat → Bool → List Char → Except Fault (After (List α))
  | 0, _, _ => .error (.ended .list)
  | rounds + 1, first, cs => do
    match ← nextItem first cs with
    | none => return ([], cs)
    | some cs =>
      let (a, cs) ← item cs
      let (as, cs) ← items item rounds false cs
      return (a :: as, cs)

/-- The members of an object up to its closing brace, gathered from `state`; `member` reads
    what stands after a key. -/
def members {σ : Type} (member : σ → String → List Char → Except Fault (After σ)) :
    Nat → Bool → σ → List Char → Except Fault (After σ)
  | 0, _, _, _ => .error (.ended .object)
  | rounds + 1, first, state, cs => do
    match ← nextKey first cs with
    | none => return (state, cs)
    | some cs =>
      let (key, cs) ← scanString cs
      let (state, cs) ← member state (String.ofList key) cs
      members member rounds false state cs

/-! ## Any value -/

/-- Any value, with at most `depth` further brackets open. -/
def value (rounds : Nat) (depth : Nat) (cs : List Char) : Except Fault (After Json) :=
  match spaced cs with
  | [] => .error (.ended .value)
  | c :: rest =>
    if c = 'n' then (passLiteral ['u', 'l', 'l'] rest).map (.null, ·)
    else if c = 't' then (passLiteral ['r', 'u', 'e'] rest).map (.bool true, ·)
    else if c = 'f' then (passLiteral ['a', 'l', 's', 'e'] rest).map (.bool false, ·)
    else if c = '"' then (scanString rest).map fun (s, rest) => (.string (String.ofList s), rest)
    else if c = '-' ∨ c.isDigit then
      (scanNumber (c :: rest)).map fun (n, rest) => (.number n, rest)
    else if c = '[' then
      match depth with
      | 0 => .error .tooDeep
      | depth + 1 => do
        let (xs, rest) ← items (value rounds depth) rounds true rest
        return (.list xs, ← endList rest)
    else if c = '{' then
      match depth with
      | 0 => .error .tooDeep
      | depth + 1 => do
        let member (state : List (String × Json)) (key : String) (cs : List Char) :
            Except Fault (After (List (String × Json))) := do
          let (v, cs) ← value rounds depth (← colon cs)
          return (insert key v state, cs)
        let (ms, rest) ← members member rounds true [] rest
        return (.object ms, ← endObject rest)
    else .error .expectedValue

/-- Nothing but spacing may follow. -/
def finish {α : Type} : α × List Char → Except Fault α
  | (a, cs) => if (spaced cs).isEmpty then .ok a else .error .trailingText

/-- The value that a whole text holds. -/
def parse (text : String) : Except Fault Json := do
  let cs := text.toList
  finish (← value (cs.length + 1) nestingLimit cs)

/-! ## One sort of value -/

/-- Complains about the sort of what stands here. -/
def refuse {α : Type} (wanted : Wanted) (cs : List Char) : Except Fault α := do
  throw (.wrongSort (← scanFound cs) wanted)

/-- A string. -/
def text (cs : List Char) : Except Fault (After String) :=
  match spaced cs with
  | '"' :: rest => (scanString rest).map fun (s, rest) => (String.ofList s, rest)
  | _ => refuse .text cs

/-- A list of one sort of element; `item` is absent where no further bracket may be opened. -/
def listOf {α : Type} (rounds : Nat) (item : Option (List Char → Except Fault (After α)))
    (cs : List Char) : Except Fault (After (List α)) :=
  match spaced cs with
  | '[' :: rest =>
    match item with
    | none => .error .tooDeep
    | some item => do
      let (xs, rest) ← items item rounds true rest
      return (xs, ← endList rest)
  | _ => refuse .list cs

/-- One of several names, written as a string or as an object with the name as its only key and
    `null` as its content; `nested` says whether a further bracket may be opened. -/
def choice {α : Type} (known : List (String × α)) (nested : Bool) (cs : List Char) :
    Except Fault (After α) :=
  match spaced cs with
  | [] => .error (.ended .value)
  | c :: rest =>
    if c = '"' then do
      let (name, rest) ← scanString rest
      return (← nameAmong known (String.ofList name), rest)
    else if c = '{' then
      if !nested then .error .tooDeep
      else match spaced rest with
        | [] => .error (.ended .object)
        | d :: rest =>
          if d = '}' then .error .expectedValue
          else if d ≠ '"' then .error .keyNotString
          else do
            let (name, rest) ← scanString rest
            let a ← nameAmong known (String.ofList name)
            let rest ← nothing (← colon rest)
            match spaced rest with
            | [] => .error (.ended .object)
            | e :: rest => if e = '}' then .ok (a, rest) else .error .expectedValue
    else .error .expectedValue
where
  /-- The content of a name written as an object. -/
  nothing (cs : List Char) : Except Fault (List Char) :=
    match spaced cs with
    | 'n' :: rest => passLiteral ['u', 'l', 'l'] rest
    | _ => refuse .nothing cs

/-! ## Records -/

/-- How a record `α` is read: its fields by name, gathered in a draft `δ`. -/
structure Layout (δ α : Type) where
  /-- the name of the record in messages -/
  name : String
  /-- the fields, in the order in which a list gives them -/
  fields : List String
  blank : δ
  /-- has the draft a value for the field? -/
  filled : δ → String → Bool
  /-- reads a value for the field -/
  fill : δ → String → List Char → Except Fault (After δ)
  /-- the record, or the first required field without a value -/
  close : δ → Except String α

/-- Reads what stands after a key: a field of the record once, and any other member not at all. -/
def Layout.member {δ α : Type} (l : Layout δ α) (rounds : Nat) (draft : δ) (key : String)
    (cs : List Char) : Except Fault (After δ) :=
  if l.fields.contains key then
    if l.filled draft key then .error (.duplicateField key)
    else do l.fill draft key (← colon cs)
  else do return (draft, ← passValue rounds (← colon cs))

/-- Reads fields in their order from the elements of a list, as many as there are. -/
def Layout.elements {δ α : Type} (l : Layout δ α) :
    List String → Bool → δ → List Char → Except Fault (After δ)
  | [], _, draft, cs => .ok (draft, cs)
  | field :: fields, first, draft, cs => do
    match ← nextItem first cs with
    | none => return (draft, cs)
    | some cs =>
      let (draft, cs) ← l.fill draft field cs
      l.elements fields false draft cs

/-- A record, from an object or from a list of its fields; `layout` is absent where no further
    bracket may be opened. -/
def record {δ α : Type} (name : String) (rounds : Nat) (layout : Option (Layout δ α))
    (cs : List Char) : Except Fault (After α) :=
  match spaced cs with
  | '{' :: rest =>
    match layout with
    | none => .error .tooDeep
    | some l => do
      let (draft, rest) ← members (l.member rounds) rounds true l.blank rest
      match l.close draft with
      | .error field => throw (.missingField field)
      | .ok a => return (a, ← endObject rest)
  | '[' :: rest =>
    match layout with
    | none => .error .tooDeep
    | some l => do
      let (draft, rest) ← l.elements l.fields true l.blank rest
      match l.close draft with
      | .error field => throw (.tooFew (l.fields.idxOf field) name l.fields.length)
      | .ok a => return (a, ← endList rest)
  | _ => refuse (.record name) cs

end DocIndex.Json
