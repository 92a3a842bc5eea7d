/-
  LINKED TYPE EXPRESSIONS.

  The identifiers of a type expression are looked up in a catalog.  One that is found becomes a link
  to its record, shown by the record's simple name; one that is not is external and shown by the
  part after its last dot.  Delimiters, keywords and spaces between them are plain text, and plain
  text that stands together is one segment.
-/
import DocIndex.Catalog
import DocIndex.Markup
import DocIndex.TypeExpr.Token

namespace DocIndex

/-- A part of a linked type expression. -/
inductive Segment where
  | text (content : String)
  | link (target label : String)
  | external (label : String)
  deriving Repr, DecidableEq

/-- The part of a name after its last dot. -/
def lastPart (name : String) : String :=
  String.ofList (name.toList.reverse.takeWhile (· ≠ '.')).reverse

namespace Segment

/-- What the reader sees. -/
def shown : Segment → String
  | .text content => content
  | .link _ label => label
  | .external label => label

/-- Where a link leads. -/
def target? : Segment → Option String
  | .link target _ => some target
  | _ => none

def isLink : Segment → Bool
  | .link _ _ => true
  | _ => false

def isExternal : Segment → Bool
  | .external _ => true
  | _ => false

/-- The segment as markup. -/
def markup : Segment → Markup
  | .text content => .text content
  | .link target label =>
    .element "a" [("class", "type-link"), ("href", "#" ++ target)] [.text label]
  | .external label => .element "span" [("class", "type-external")] [.text label]

/-- The segment as a value. -/
def toJson : Segment → Json
  | .text content => .object [("kind", .string "text"), ("text", .string content)]
  | .link target label =>
    .object [("kind", .string "link"), ("target", .string target), ("label", .string label)]
  | .external label => .object [("kind", .string "external"), ("label", .string label)]

/-- The segments with plain text in front, joined to plain text already there. -/
def putText (content : String) : List Segment → List Segment
  | .text rest :: segments => .text (content ++ rest) :: segments
  | segments => .text content :: segments

end Segment

namespace Catalog

/-- The segment of an identifier; `label` replaces what it is shown by. -/
def linkIdentifier (c : Catalog) (identifier : String) (label : Option String) : Segment :=
  match c.find? identifier with
  | some r => .link r.qualifiedName (label.getD r.name)
  | none => .external (label.getD (lastPart identifier))

/-- The segments of a list of tokens. -/
def linkTokens (c : Catalog) : List Token → List Segment
  | [] => []
  | .identifier word :: ts => c.linkIdentifier word none :: c.linkTokens ts
  | t :: ts => Segment.putText t.text (c.linkTokens ts)

/-- The segments of a type expression. -/
def link (c : Catalog) (expr : String) : List Segment := c.linkTokens (Token.tokens expr)

end Catalog

/-- A linked expression as the reader sees it. -/
def Segment.plain (segments : List Segment) : String := String.join (segments.map Segment.shown)

/-- A linked expression as markup. -/
def Segment.html (segments : List Segment) : String := Markup.html (segments.map Segment.markup)

end DocIndex
