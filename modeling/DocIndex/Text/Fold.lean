/-
  CASE FOLDING, and search in folded text.

  Texts are compared without regard to case by lowering every character BY ITSELF: no rule looks at
  the neighbours, so a capital sigma at the end of a word folds like any other sigma.  Folding may
  lengthen a text (U+0130 becomes two characters), and a small letter may take more or fewer bytes
  than its capital, so a place in the folded text is not a place in the text.  `foldWithOrigins`
  keeps, for every byte of the folded text, the place of the character it came from; highlighting
  works on that.
-/
import DocIndex.Text.Bytes
import DocIndex.Text.CaseRuns

namespace DocIndex.Text

/-- The lowercase of one character, as one or two characters. -/
def lower (c : Char) : List Char :=
  if c.toNat < 0x80 then [c.toLower]
  else if c.toNat = 0x130 then ['i', '\u0307']
  else match caseRuns.find? (·.covers c.toNat) with
    | some run => [Char.ofNat (c.toNat + run.shift).toNat]
    | none => [c]

/-- A text with every character lowered. -/
def fold (cs : List Char) : List Char := cs.flatMap lower

/-- A string with every character lowered. -/
def folded (s : String) : String := String.ofList (fold s.toList)

/-- A folded text and, for each of its bytes, the place of the character it came from. -/
structure Traced where
  chars : List Char
  origins : List Nat
  deriving Repr, DecidableEq

/-- The folded text with origins, for a text whose first character stands at the place `start`. -/
def foldWithOrigins (start : Nat) : List Char → Traced
  | [] => ⟨[], []⟩
  | c :: cs =>
    let rest := foldWithOrigins (start + c.utf8Size) cs
    ⟨lower c ++ rest.chars,
      (lower c).flatMap (fun d => List.replicate d.utf8Size start) ++ rest.origins⟩

/-- Does `needle` occur in `hay` as consecutive characters?  The empty text occurs everywhere. -/
def occursIn (needle : List Char) : List Char → Bool
  | [] => needle.isEmpty
  | c :: cs => needle.isPrefixOf (c :: cs) || occursIn needle cs

/-- Does the text, once folded, hold the needle?  The needle is taken as it is. -/
def holds (text needle : String) : Bool := occursIn needle.toList (fold text.toList)

end DocIndex.Text
