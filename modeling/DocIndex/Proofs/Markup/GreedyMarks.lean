/-
  HIGHLIGHTING WITHOUT FOLDED OFFSETS.

  If every character of a text is lowered to one character, there is a highlighter that anyone would write
  (`greedyMarks`): look at the next characters, as many as the folded query has; if they fold to it,
  mark them and go on behind them, otherwise write one character and go on behind it.  It knows no
  offsets and no origins, and it compares in the text itself.

  Its steps are told apart by where occurrences begin in the folded text (`front_iff_fold_take`).  Behind
  a mark nothing is hidden then, since no character has a second half, and so the layout of the marks is
  the greedy one (`Layout.greedy`).

  Texts with the dotted capital are left out, and only these: no other character is lowered to two.
  With them the greedy highlighter can give something else, since `i` is found in the dotted
  capital, which folds to more than `i`.
-/
import DocIndex.Proofs.Markup.Highlighting

namespace DocIndex.Markup

open Text

/-- A text highlighted character by character, for a needle that is not empty. -/
def greedyMarks (needle : List Char) : List Char → List Char
  | [] => []
  | c :: cs =>
    if fold ((c :: cs).take needle.length) = needle then
      "<mark>".toList ++ escapeChars ((c :: cs).take needle.length) ++ "</mark>".toList ++
        greedyMarks needle (cs.drop (needle.length - 1))
    else escapeChar c ++ greedyMarks needle cs
termination_by cs => cs.length
decreasing_by
  · rw [List.length_drop, List.length_cons]
    omega
  · exact Nat.lt_succ_self _

/-- Every character of the text is lowered to one character. -/
def Single (cs : List Char) : Prop := ∀ c ∈ cs, (lower c).length = 1

/-! ## Texts that keep their length

  In such a text a place is a number of characters, and it is the same number in the folded text.
  This is what makes the offsets superfluous. -/

theorem Single.append {cs ds : List Char} (h : Single (cs ++ ds)) : Single cs ∧ Single ds :=
  ⟨fun c hc => h c (List.mem_append_left _ hc), fun c hc => h c (List.mem_append_right _ hc)⟩

/-- Folding keeps the number of characters, so places in the text and in the folded text are the
    same. -/
theorem Single.length_fold {cs : List Char} (h : Single cs) : (fold cs).length = cs.length := by
  induction cs with
  | nil => rfl
  | cons c cs ih =>
    have hone := h c List.mem_cons_self
    have hrest := ih fun d hd => h d (List.mem_cons_of_mem c hd)
    rw [fold_cons, List.length_append, hone, hrest, List.length_cons]
    omega

/-- Folding the next characters is taking the next folded characters. -/
theorem Single.fold_take {cs : List Char} (h : Single cs) (n : Nat) :
    fold (cs.take n) = (fold cs).take n := by
  have hsplit : Single (cs.take n ++ cs.drop n) := by rwa [List.take_append_drop]
  obtain ⟨htake, -⟩ := hsplit.append
  have hlength := htake.length_fold
  rw [List.length_take] at hlength
  by_cases hn : n ≤ cs.length
  · -- there are so many characters, and cutting commutes with folding
    have hfold : fold cs = fold (cs.take n) ++ fold (cs.drop n) := by
      rw [← fold_append, List.take_append_drop]
    have hexact : (fold (cs.take n)).length = n := by omega
    rw [hfold, List.take_left' hexact]
  · -- all characters are taken on both sides
    have hall := h.length_fold
    rw [List.take_of_length_le (by omega), List.take_of_length_le (by omega)]

/-- The next characters fold to the needle exactly if an occurrence begins here. -/
theorem front_iff_fold_take {needle cs : List Char} (h : Single cs) :
    fold (cs.take needle.length) = needle ↔ needle <+: fold cs := by
  rw [h.fold_take, List.prefix_iff_eq_take]
  exact eq_comm

/-! ## The steps of the greedy highlighter

  A layout consists of gaps and marks, and the greedy highlighter crosses each in its own way: a
  mark in one step, a gap character by character. -/

/-- Characters that fold to the needle are marked, and the walk goes on behind them. -/
theorem greedyMarks_mark {needle mark rest : List Char} (hne : needle ≠ [])
    (hsingle : Single (mark ++ rest)) (hmark : fold mark = needle) :
    greedyMarks needle (mark ++ rest) =
      openTag "mark" [] ++ escapeChars mark ++ closeTag "mark" ++ greedyMarks needle rest := by
  have hlength : needle.length = mark.length := by
    rw [← hmark]
    exact hsingle.append.1.length_fold
  cases mark with
  | nil => exact absurd hmark.symm hne
  | cons c cs =>
    have htake : (c :: (cs ++ rest)).take needle.length = c :: cs := by
      rw [hlength]
      exact List.take_left
    have hdrop : (cs ++ rest).drop (needle.length - 1) = rest := by
      rw [hlength, List.length_cons, Nat.add_sub_cancel]
      exact List.drop_left
    rw [List.cons_append, greedyMarks, htake, if_pos hmark, hdrop, openTag_mark, closeTag_mark]

/-- Characters at which no occurrence begins are written as they are. -/
theorem greedyMarks_gap {needle gap rest : List Char} (hsingle : Single (gap ++ rest))
    (hnone : ∀ a b, fold (gap ++ rest) = a ++ needle ++ b → gap.length ≤ a.length) :
    greedyMarks needle (gap ++ rest) = escapeChars gap ++ greedyMarks needle rest := by
  induction gap with
  | nil => rfl
  | cons c gap ih =>
    have hfront : ¬ fold ((c :: (gap ++ rest)).take needle.length) = needle := by
      intro hfold
      obtain ⟨b, hb⟩ := (front_iff_fold_take hsingle).mp hfold
      have hlength := hnone [] b hb.symm
      exact absurd hlength (Nat.not_succ_le_zero _)
    have hrest : Single (gap ++ rest) := fun d hd => hsingle d (List.mem_cons_of_mem c hd)
    obtain ⟨d, hd⟩ := List.length_eq_one_iff.mp (hsingle c List.mem_cons_self)
    -- what begins in the rest begins one place further on in the whole
    have hnext : ∀ a b, fold (gap ++ rest) = a ++ needle ++ b → gap.length ≤ a.length := by
      intro a b hoccurs
      have hlength := hnone (d :: a) b (by
        rw [List.cons_append, fold_cons, hd, hoccurs]
        rfl)
      rw [List.length_cons, List.length_cons] at hlength
      omega
    rw [List.cons_append, greedyMarks, if_neg hfront, ih hrest hnext, ← List.append_assoc]
    rfl

/-- Marks that are laid out where no character has a second half are the greedy ones. -/
theorem Layout.greedy {needle rest : List Char} {ps : List Piece} (hne : needle ≠ [])
    (h : Layout needle [] rest ps) (hsingle : Single rest) :
    ps.flatMap Piece.written = greedyMarks needle rest := by
  generalize htail : ([] : List Char) = tail at h
  induction h with
  -- nothing can be hidden, so nothing occurs at all
  | @last tail rest hidden =>
    subst htail
    rw [← List.append_nil rest] at hsingle
    have hnone : ∀ a b, fold (rest ++ []) = a ++ needle ++ b → rest.length ≤ a.length := by
      intro a b hoccurs
      rw [List.append_nil] at hoccurs
      exact absurd rfl (hidden a b hoccurs).1
    have hgap := greedyMarks_gap hsingle hnone
    rw [List.append_nil, greedyMarks] at hgap
    rw [hgap]
    rfl
  | @mark tail gap mark rest x y ps covers hidden shown behind ih =>
    subst htail
    rw [List.append_assoc] at hsingle
    obtain ⟨hgap, hbehind⟩ := hsingle.append
    obtain ⟨hmark, hrest⟩ := hbehind.append
    obtain ⟨c, cs, rfl, hfirst⟩ := covers.first
    obtain ⟨cs', c', hcs', hlast⟩ := covers.last
    -- neither before nor behind the needle is there room for half a character
    rw [hmark c List.mem_cons_self] at hfirst
    rw [hmark c' (by rw [hcs']; simp)] at hlast
    obtain rfl := List.eq_nil_of_length_eq_zero (Nat.lt_one_iff.mp hfirst)
    obtain rfl := List.eq_nil_of_length_eq_zero (Nat.lt_one_iff.mp hlast)
    have hfolds : fold (c :: cs) = needle := by simpa using covers.folds
    have hnone : ∀ a b, fold (gap ++ (c :: cs ++ rest)) = a ++ needle ++ b →
        gap.length ≤ a.length := by
      intro a b hoccurs
      refine Nat.le_of_not_lt fun hlt => ?_
      rw [← List.append_assoc] at hoccurs
      refine (hidden a b hoccurs ?_).1 rfl
      rw [List.append_nil, hgap.length_fold]
      exact hlt
    -- the gap, the mark, and by induction what stands behind
    rw [List.append_assoc, greedyMarks_gap hsingle hnone, greedyMarks_mark hne hbehind hfolds,
      List.flatMap_cons, List.flatMap_cons, ih hrest rfl]
    simp only [Piece.written, List.append_assoc]

/-- **Highlighting is greedy.**  With a query that is not empty, a text whose characters are all lowered
    to one character is highlighted as one walks along it. -/
theorem highlight_eq_greedyMarks (text query : String) (nonempty : query ≠ "")
    (single : ∀ c ∈ text.toList, (lower c).length = 1) :
    html (highlight text query) = String.ofList (greedyMarks (fold query.toList) text.toList) := by
  have hquery : query.toList ≠ [] := fun h => nonempty (String.toList_eq_nil_iff.mp h)
  have hgreedy := (layout_pieces hquery text.toList).greedy (fold_ne_nil hquery) single
  rw [highlight, html, renderAll_pieces, hgreedy]

/-- The query may fold to more characters than it has, and the text to more bytes. -/
theorem highlight_eq_greedyMarks_dotted :
    "\u0130" ≠ "" ∧ (∀ c ∈ "\u023A<I\u0307".toList, (lower c).length = 1) ∧
      html (highlight "\u023A<I\u0307" "\u0130") =
        String.ofList (greedyMarks (fold "\u0130".toList) "\u023A<I\u0307".toList) := by
  have single : ∀ c ∈ "\u023A<I\u0307".toList, (lower c).length = 1 := by
    have hall : ("\u023A<I\u0307".toList.all fun c => (lower c).length == 1) = true := by
      decide +kernel
    intro c hc
    exact beq_iff_eq.mp (List.all_eq_true.mp hall c hc)
  exact ⟨by decide, single, highlight_eq_greedyMarks _ _ (by decide) single⟩

end DocIndex.Markup
