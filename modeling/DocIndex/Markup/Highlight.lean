/-
  HIGHLIGHTING.

  Every occurrence of a query in a text, without regard to case, is wrapped in a mark.  Occurrences
  are found in the folded text, from left to right, each search going on behind the last
  occurrence. A byte of the folded text leads back to the character it came from, and a mark always
  covers whole characters of the text: where one character folds to two, an occurrence that starts in
  the middle of it marks all of it.  An occurrence that would start before the end of the last mark is
  left out.

  The text is cut at the places of the marks.  A cut that is no place of the text gives nothing
  (`pieces?`); no such cut is ever made.
-/
import DocIndex.Markup
import DocIndex.Text.Fold

namespace DocIndex.Markup

open Text (byteLength fold foldWithOrigins slice? splitBytes?)

/-- The places at which the needle occurs in a text, from left to right, where occurrences do not
    overlap.  The first character stands at the place `start`, and the first `skip` characters belong
    to an occurrence already found. -/
def occurrences (needle : List Char) (start : Nat) : Nat → List Char → List Nat
  | _, [] => []
  | skip + 1, c :: cs => occurrences needle (start + c.utf8Size) skip cs
  | 0, c :: cs =>
    if needle.isPrefixOf (c :: cs) then
      start :: occurrences needle (start + c.utf8Size) (needle.length - 1) cs
    else occurrences needle (start + c.utf8Size) 0 cs

/-- The part of a text from the place `start` up to the place `stop`. -/
structure Span where
  start : Nat
  stop : Nat
  deriving Repr, DecidableEq

/-- The whole characters of the text from which `length` bytes of the folded text came, those from
    `place` on. -/
def Span.around? (text : List Char) (origins : List Nat) (length place : Nat) : Option Span := do
  let first ← origins[place]?
  let last ← origins[place + length - 1]?
  let (_, behind) ← splitBytes? last text
  let width := match behind with
    | [] => 1
    | c :: _ => c.utf8Size
  some ⟨first, last + width⟩

/-- A stretch of a text. -/
inductive Piece where
  | plain (chars : List Char)
  | marked (chars : List Char)
  deriving Repr, DecidableEq

/-- The stretches of the text from the place `done` on, where an occurrence takes `length` bytes of the
    folded text and `places` are those of the occurrences still to be marked. -/
def mark? (text : List Char) (origins : List Nat) (length done : Nat) :
    List Nat → Option (List Piece)
  | [] => do
    let rest ← slice? done (byteLength text) text
    some [.plain rest]
  | place :: places => do
    let span ← Span.around? text origins length place
    if span.start < done then mark? text origins length done places
    else
      let before ← slice? done span.start text
      let within ← slice? span.start span.stop text
      let rest ← mark? text origins length span.stop places
      some (.plain before :: .marked within :: rest)

/-- The stretches of a text, those that hold the query marked. -/
def pieces? (text query : List Char) : Option (List Piece) :=
  let needle := fold query
  if text.isEmpty || needle.isEmpty then some [.plain text]
  else
    let folded := foldWithOrigins 0 text
    mark? text folded.origins (byteLength needle) 0 (occurrences needle 0 0 folded.chars)

/-- A text that cannot be cut would stay in one piece. -/
def pieces (text query : List Char) : List Piece := (pieces? text query).getD [.plain text]

/-- A stretch as markup. -/
def Piece.markup : Piece → Markup
  | .plain cs => .text (String.ofList cs)
  | .marked cs => .element "mark" [] [.text (String.ofList cs)]

/-- The text with the query marked. -/
def highlight (text query : String) : List Markup :=
  (pieces text.toList query.toList).map Piece.markup

end DocIndex.Markup
