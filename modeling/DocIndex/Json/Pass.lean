/-
  PASSING OVER a value.

  A member that nobody asked for is checked for its spelling and forgotten.  It may be nested as
  deeply as its text is long, so the open brackets are kept in a list instead of in the recursion:
  `passOpen` stands before a value inside the brackets `open`, and `resume` stands after one and
  closes brackets until a comma calls for another value or nothing is left open.

  A comma must be followed by a value, also in a list: here a trailing comma is a missing value.
-/
import DocIndex.Json.Scan

namespace DocIndex.Json

/-- An open bracket. -/
inductive Bracket where
  | list
  | object
  deriving Repr, DecidableEq

/-- What comes after a value that was passed over. -/
inductive Onward where
  /-- nothing is open any more -/
  | done (rest : List Char)
  /-- another value inside these brackets -/
  | value (brackets : List Bracket) (rest : List Char)

/-- Passes over a key and its colon. -/
def passKey (cs : List Char) : Except Fault (List Char) :=
  match spaced cs with
  | [] => .error (.ended .object)
  | c :: rest =>
    if c ≠ '"' then .error .keyNotString
    else do
      let rest ← passString rest
      match spaced rest with
      | [] => .error (.ended .object)
      | c :: rest => if c = ':' then .ok rest else .error .expectedColon

/-- Goes on after a value. -/
def resume : List Bracket → List Char → Except Fault Onward
  | [], cs => .ok (.done cs)
  | .list :: outer, cs =>
    match spaced cs with
    | [] => .error (.ended .list)
    | c :: rest =>
      if c = ',' then .ok (.value (.list :: outer) rest)
      else if c = ']' then resume outer rest
      else .error .expectedCommaOrBracket
  | .object :: outer, cs =>
    match spaced cs with
    | [] => .error (.ended .object)
    | c :: rest =>
      if c = ',' then (passKey rest).map (.value (.object :: outer))
      else if c = '}' then resume outer rest
      else .error .expectedCommaOrBrace

/-- Passes over a scalar, or opens a bracket. -/
def passHead (brackets : List Bracket) (cs : List Char) : Except Fault Onward :=
  match spaced cs with
  | [] => .error (.ended .value)
  | c :: rest =>
    if c = '[' then
      match spaced rest with
      | [] => .error (.ended .list)
      | d :: after =>
        if d = ']' then resume brackets after else .ok (.value (.list :: brackets) rest)
    else if c = '{' then
      match spaced rest with
      | [] => .error (.ended .object)
      | d :: after =>
        if d = '}' then resume brackets after
        else (passKey rest).map (.value (.object :: brackets))
    else do
      let rest ←
        if c = 'n' then passLiteral ['u', 'l', 'l'] rest
        else if c = 't' then passLiteral ['r', 'u', 'e'] rest
        else if c = 'f' then passLiteral ['a', 'l', 's', 'e'] rest
        else if c = '"' then passString rest
        else if c = '-' ∨ c.isDigit then passNumber (c :: rest)
        else .error .expectedValue
      resume brackets rest

/-- Passes over values until no bracket is open.  Each round reads at least one character, so
    as many rounds as the text has characters are enough. -/
def passOpen : Nat → List Bracket → List Char → Except Fault (List Char)
  | 0, _, _ => .error (.ended .value)
  | rounds + 1, brackets, cs => do
    match ← passHead brackets cs with
    | .done rest => .ok rest
    | .value brackets rest => passOpen rounds brackets rest

/-- Passes over one value. -/
def passValue (rounds : Nat) (cs : List Char) : Except Fault (List Char) := passOpen rounds [] cs

end DocIndex.Json
