/-
  WRITING JSON.

  Two layouts of the same value.  `compact` has no spacing at all.  `pretty` puts every element and
  every member on a line of its own, two spaces further in than the bracket around it, with a space
  after the colon; an empty list or object stays together.

  In a string only the quote, the backslash and the controls are escaped.
-/
import DocIndex.Decimal.Shortest
import DocIndex.Json.Basic

namespace DocIndex.Json

/-- The sixteen digits. -/
def hexDigitOf (n : Nat) : Char := Nat.digitChar n

/-- How a character is written inside a string. -/
def writeChar (c : Char) : List Char :=
  if c = '"' then ['\\', '"']
  else if c = '\\' then ['\\', '\\']
  else if c = '\x08' then ['\\', 'b']
  else if c = '\x0c' then ['\\', 'f']
  else if c = '\n' then ['\\', 'n']
  else if c = '\r' then ['\\', 'r']
  else if c = '\t' then ['\\', 't']
  else if c.toNat < 0x20 then
    ['\\', 'u', '0', '0', hexDigitOf (c.toNat / 16), hexDigitOf (c.toNat % 16)]
  else [c]

/-- A string in its quotes. -/
def writeString (s : String) : List Char := '"' :: (s.toList.flatMap writeChar ++ ['"'])

/-- A number. -/
def writeNumber : Number → List Char
  | .integer n => (toString n).toList
  | .double x => (Decimal.ofFloat x).toList

mutual

/-- A value without spacing. -/
def write : Json → List Char
  | .null => ['n', 'u', 'l', 'l']
  | .bool true => ['t', 'r', 'u', 'e']
  | .bool false => ['f', 'a', 'l', 's', 'e']
  | .number n => writeNumber n
  | .string s => writeString s
  | .list xs => '[' :: (writeItems xs ++ [']'])
  | .object ms => '{' :: (writeMembers ms ++ ['}'])

/-- Elements, separated by commas. -/
def writeItems : List Json → List Char
  | [] => []
  | [x] => write x
  | x :: xs => write x ++ ',' :: writeItems xs

/-- Members, separated by commas. -/
def writeMembers : List (String × Json) → List Char
  | [] => []
  | [m] => writeMember m
  | m :: ms => writeMember m ++ ',' :: writeMembers ms

/-- A key, a colon and its value. -/
def writeMember : String × Json → List Char
  | (key, v) => writeString key ++ ':' :: write v

end

/-- A new line, indented. -/
def newLine (indent : Nat) : List Char := '\n' :: List.replicate (2 * indent) ' '

mutual

/-- A value over several lines, inside a line indented by `indent` steps. -/
def writeLines (indent : Nat) : Json → List Char
  | .list [] => ['[', ']']
  | .list (x :: xs) =>
    '[' :: (writeItemLines (indent + 1) (x :: xs) ++ newLine indent ++ [']'])
  | .object [] => ['{', '}']
  | .object (m :: ms) =>
    '{' :: (writeMemberLines (indent + 1) (m :: ms) ++ newLine indent ++ ['}'])
  | v => write v

/-- Elements, each on its line. -/
def writeItemLines (indent : Nat) : List Json → List Char
  | [] => []
  | [x] => newLine indent ++ writeLines indent x
  | x :: xs => newLine indent ++ writeLines indent x ++ ',' :: writeItemLines indent xs

/-- Members, each on its line. -/
def writeMemberLines (indent : Nat) : List (String × Json) → List Char
  | [] => []
  | [m] => newLine indent ++ writeMemberLine indent m
  | m :: ms => newLine indent ++ writeMemberLine indent m ++ ',' :: writeMemberLines indent ms

/-- A key, a colon, a space and its value. -/
def writeMemberLine (indent : Nat) : String × Json → List Char
  | (key, v) => writeString key ++ ':' :: ' ' :: writeLines indent v

end

/-- The text of a value without spacing. -/
def compact (v : Json) : String := String.ofList (write v)

/-- The text of a value over several lines. -/
def pretty (v : Json) : String := String.ofList (writeLines 0 v)

end DocIndex.Json
