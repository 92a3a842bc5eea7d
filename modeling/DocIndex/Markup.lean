/-
  MARKUP.

  Markup is a tree of elements and texts.  Rendering is the only way to text, and it escapes every
  text and every attribute value, so no content can open a tag, close an attribute or pass for an
  entity.

  Five characters are written as entities.  A text without any of them is its own escaped form;
  `escape` says so, and such a text is handed on as it is.
-/
namespace DocIndex

/-- Nested elements and texts. -/
inductive Markup where
  | text (content : String)
  | element (tag : String) (attributes : List (String × String)) (children : List Markup)

namespace Markup

/-- The escaped form of one character. -/
def escapeChar (c : Char) : List Char :=
  if c = '&' then ['&', 'a', 'm', 'p', ';']
  else if c = '<' then ['&', 'l', 't', ';']
  else if c = '>' then ['&', 'g', 't', ';']
  else if c = '"' then ['&', 'q', 'u', 'o', 't', ';']
  else if c = '\x27' then ['&', '#', '3', '9', ';']
  else [c]

/-- The escaped form of a text. -/
def escapeChars (cs : List Char) : List Char := cs.flatMap escapeChar

/-- Is the character written as an entity? -/
def isReserved (c : Char) : Bool := c = '&' || c = '<' || c = '>' || c = '"' || c = '\x27'

/-- An escaped text: the text itself where nothing had to be escaped. -/
inductive Escaped where
  | verbatim (text : String)
  | rewritten (text : String)
  deriving Repr, DecidableEq

/-- What is written. -/
def Escaped.written : Escaped → String
  | .verbatim s => s
  | .rewritten s => s

/-- Was nothing escaped? -/
def Escaped.isVerbatim : Escaped → Bool
  | .verbatim _ => true
  | .rewritten _ => false

/-- Escapes a text. -/
def escape (s : String) : Escaped :=
  if s.toList.any isReserved then .rewritten (String.ofList (escapeChars s.toList)) else .verbatim s

/-- An attribute inside a tag. -/
def renderAttribute : String × String → List Char
  | (name, value) => ' ' :: name.toList ++ '=' :: '"' :: escapeChars value.toList ++ ['"']

/-- The tag that opens an element. -/
def openTag (tag : String) (attributes : List (String × String)) : List Char :=
  '<' :: tag.toList ++ attributes.flatMap renderAttribute ++ ['>']

/-- The tag that closes an element. -/
def closeTag (tag : String) : List Char := '<' :: '/' :: tag.toList ++ ['>']

mutual

/-- Markup as text. -/
def render : Markup → List Char
  | .text content => escapeChars content.toList
  | .element tag attributes children =>
    openTag tag attributes ++ renderAll children ++ closeTag tag

/-- Several pieces of markup, one after the other. -/
def renderAll : List Markup → List Char
  | [] => []
  | m :: ms => render m ++ renderAll ms

end

/-- Markup as a string. -/
def html (ms : List Markup) : String := String.ofList (renderAll ms)

end Markup
end DocIndex
