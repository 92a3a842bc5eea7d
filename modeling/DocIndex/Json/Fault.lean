/-
  WHAT CAN BE WRONG with a JSON text or with the shape of a JSON value.

  A fault is the first thing that a reader met.  The first group are faults of the text, the second
  group faults of the shape: the text is JSON, and yet no value of the type that was wanted.  The
  words of every fault are in `Fault.message`.
-/
import DocIndex.Decimal.Shortest
import DocIndex.Json.Basic
import DocIndex.Text.Quoted

namespace DocIndex.Json

/-- What was being read when the text ended. -/
inductive Place where
  | value
  | list
  | object
  | string
  deriving Repr, DecidableEq

/-- A value as a message names it: scalars with their content, lists and objects by their sort. -/
inductive Found where
  | null
  | bool (value : Bool)
  | number (value : Number)
  | string (value : String)
  | list
  | object

/-- What a reader wanted to find. -/
inductive Wanted where
  | text
  | list
  | record (name : String)
  /-- the empty content of a name written as an object -/
  | nothing
  /-- one of several names -/
  | choice
  deriving Repr, DecidableEq

/-- The first thing wrong. -/
inductive Fault where
  | ended (inside : Place)
  | expectedValue
  | brokenLiteral
  | expectedColon
  | expectedCommaOrBrace
  | expectedCommaOrBracket
  | keyNotString
  | trailingComma
  | trailingText
  | badNumber
  | numberTooLarge
  | badEscape
  | controlCharacter
  | loneSurrogate
  | brokenSurrogate
  | tooDeep
  | wrongSort (found : Found) (wanted : Wanted)
  | notSingleKey
  | unknownName (name : String) (known : List String)
  | missingField (name : String)
  | duplicateField (name : String)
  /-- a list with a required field missing at index `count` of a record of `size` fields -/
  | tooFew (count : Nat) (record : String) (size : Nat)
  | tooMany (count : Nat)

def Place.name : Place → String
  | .value => "a value"
  | .list => "a list"
  | .object => "an object"
  | .string => "a string"

def numberPhrase : Number → String
  | .integer n => s!"integer `{n}`"
  | .double x => "floating point `" ++ Decimal.ofFloat x ++ "`"

def Found.phrase : Found → String
  | .null => "null"
  | .bool b => s!"boolean `{b}`"
  | .number n => numberPhrase n
  | .string s => "string " ++ Text.quoted s
  | .list => "sequence"
  | .object => "map"

def Wanted.phrase : Wanted → String
  | .text => "a string"
  | .list => "a sequence"
  | .record name => "struct " ++ name
  | .nothing => "unit"
  | .choice => "string or map"

/-- A value as messages name it. -/
def found : Json → Found
  | .null => .null
  | .bool b => .bool b
  | .number n => .number n
  | .string s => .string s
  | .list _ => .list
  | .object _ => .object

/-- The names, each between backquotes, separated by commas. -/
def Fault.listed (names : List String) : String :=
  ", ".intercalate (names.map fun name => "`" ++ name ++ "`")

/-- The words of a fault. -/
def Fault.message : Fault → String
  | .ended inside => "EOF while parsing " ++ inside.name
  | .expectedValue => "expected value"
  | .brokenLiteral => "expected ident"
  | .expectedColon => "expected `:`"
  | .expectedCommaOrBrace => "expected `,` or `\x7d`"
  | .expectedCommaOrBracket => "expected `,` or `]`"
  | .keyNotString => "key must be a string"
  | .trailingComma => "trailing comma"
  | .trailingText => "trailing characters"
  | .badNumber => "invalid number"
  | .numberTooLarge => "number out of range"
  | .badEscape => "invalid escape"
  | .controlCharacter => "control character (\\u0000-\\u001F) found while parsing a string"
  | .loneSurrogate => "lone leading surrogate in hex escape"
  | .brokenSurrogate => "unexpected end of hex escape"
  | .tooDeep => "recursion limit exceeded"
  | .wrongSort found wanted => "invalid type: " ++ found.phrase ++ ", expected " ++ wanted.phrase
  | .notSingleKey => "invalid value: map, expected map with a single key"
  | .unknownName name known =>
    "unknown variant `" ++ name ++ "`, expected one of " ++ listed known
  | .missingField name => "missing field `" ++ name ++ "`"
  | .duplicateField name => "duplicate field `" ++ name ++ "`"
  | .tooFew count record size =>
    "invalid length " ++ toString count ++ ", expected struct " ++ record ++ " with " ++
      toString size ++ (if size = 1 then " element" else " elements")
  | .tooMany count => "invalid length " ++ toString count ++ ", expected fewer elements in array"

end DocIndex.Json
