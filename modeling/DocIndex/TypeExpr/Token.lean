/-
  TOKENS of a type expression.

  A type expression such as `Map<String, List<User>>` is cut at its delimiters.  Between delimiters
  stands a word, without the blanks around it: a primitive type or one of the two bounds is a
  keyword, any other word an identifier.  A comma is followed by one space, whatever the expression
  had there. A bound that is followed by a space is split off, so that `extends Number` is a
  keyword, a space and an identifier; a bound behind a wildcard stays inside the word.

  The expression need not be balanced, and nothing is refused.
-/
import DocIndex.Text.Blank

namespace DocIndex

/-- A part of a type expression. -/
inductive Token where
  | delimiter (char : Char)
  | keyword (word : String)
  | identifier (word : String)
  | space
  deriving Repr, DecidableEq

namespace Token

/-- The primitive types. -/
def primitives : List String :=
  ["void", "boolean", "byte", "short", "int", "long", "float", "double", "char"]

/-- The words that introduce a bound. -/
def bounds : List String := ["extends", "super"]

/-- The characters that separate words. -/
def delimiters : List Char := ['<', '>', ',', '[', ']']

def isPrimitive (word : String) : Bool := primitives.contains word

def isBound (word : String) : Bool := bounds.contains word

def isDelimiter (c : Char) : Bool := delimiters.contains c

/-- The token of a word. -/
def ofWord (word : String) : Token :=
  if isPrimitive word || isBound word then .keyword word else .identifier word

/-- The token of the text between two delimiters, if there is more than blanks. -/
def ofStretch (cs : List Char) : List Token :=
  match Text.trim cs with
  | [] => []
  | word => [ofWord (String.ofList word)]

/-- The tokens of a delimiter. -/
def ofDelimiter (c : Char) : List Token :=
  if c = ',' then [.delimiter c, .space] else [.delimiter c]

/-- The tokens of a text that follows the stretch `before`, in which no delimiter was met. -/
def scan (before : List Char) : List Char → List Token
  | [] => ofStretch before
  | c :: cs =>
    if isDelimiter c then ofStretch before ++ ofDelimiter c ++ scan [] cs
    else
      let word := String.ofList (Text.trim before)
      if c = ' ' && isBound word then .keyword word :: .space :: scan [] cs
      else scan (before ++ [c]) cs

/-- The tokens of a type expression. -/
def tokens (expr : String) : List Token :=
  if isPrimitive expr then [.keyword expr] else scan [] expr.toList

/-- The text of a token. -/
def text : Token → String
  | .delimiter c => String.singleton c
  | .keyword word => word
  | .identifier word => word
  | .space => " "

end Token
end DocIndex
