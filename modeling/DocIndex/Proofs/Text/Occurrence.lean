/-
  OCCURRENCE of one text in another.

  `occursIn` walks along the text and compares at every place.  What it decides is that the needle
  is a block of consecutive characters of the text (`<:+:`), and all that is proved about search
  and highlighting says it in those words.
-/
import DocIndex.Text.Fold

namespace DocIndex.Text

/-- The walk finds exactly the blocks of the text. -/
theorem occursIn_iff_infix (needle hay : List Char) :
    occursIn needle hay = true ↔ needle <:+: hay := by
  induction hay with
  | nil => rw [occursIn, List.isEmpty_iff, List.infix_nil]
  | cons c cs ih =>
    -- at this place, or at a later one
    rw [occursIn, Bool.or_eq_true, ih, List.isPrefixOf_iff_prefix, List.infix_cons_iff]

theorem toList_folded (s : String) : (folded s).toList = fold s.toList := by
  rw [folded, String.toList_ofList]

/-- A text holds a folded query exactly if the folded query is a block of the folded text. -/
theorem holds_folded_iff (text query : String) :
    holds text (folded query) = true ↔ fold query.toList <:+: fold text.toList := by
  rw [holds, occursIn_iff_infix, toList_folded]

end DocIndex.Text
