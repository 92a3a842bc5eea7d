/-
  PLACES IN A TEXT.

  A text is stored in UTF-8, where a character takes one to four bytes.  A place in it is the number of
  bytes in front of it.  Not every number is a place: it may lie behind the end, or inside a character.
  A text can only be cut at places, so cutting gives nothing at any other number.
-/
namespace DocIndex.Text

/-- The number of bytes of a text. -/
def byteLength (cs : List Char) : Nat := cs.foldr (fun c n => c.utf8Size + n) 0

/-- The first `n` bytes of a text and the text behind them, if that is a place of the text. -/
def splitBytes? : Nat → List Char → Option (List Char × List Char)
  | 0, cs => some ([], cs)
  | _ + 1, [] => none
  | n + 1, c :: cs =>
    if c.utf8Size ≤ n + 1 then
      (splitBytes? (n + 1 - c.utf8Size) cs).map fun (front, back) => (c :: front, back)
    else none

/-- The text from byte `start` up to, and without, byte `stop`, if both are places of the text. -/
def slice? (start stop : Nat) (cs : List Char) : Option (List Char) :=
  if start ≤ stop then do
    let (_, behind) ← splitBytes? start cs
    let (within, _) ← splitBytes? (stop - start) behind
    some within
  else none

end DocIndex.Text
