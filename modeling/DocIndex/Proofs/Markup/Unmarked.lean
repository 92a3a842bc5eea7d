/-
  WHAT IS LEFT UNMARKED.

  One would expect that no stretch without a mark holds the query.  There is a way for it to fail: the
  search goes on in the folded text behind the last occurrence, which may be inside a character, while
  marks cover whole characters.  An occurrence that begins in the rest of that character is found but
  cannot be marked, and the search then goes on behind IT.  Whatever it overlaps is never looked at.

  1. **How an occurrence gets lost** (`Layout.unmarked`) — only right behind a mark, and only if an
     occurrence begins in the mark's last character.  That character is then U+0130, which alone folds to
     two characters, so the query ends with `i`, begins with the dot U+0307 and overlaps itself:
     it is `Rebounding`.

  2. **All such queries lose one** (`not_complete_of_rebounding`) — for a text made of the query, twice
     and a bit, where the dotted capital stands on the seam.

  3. **Main statement** (`complete_iff_not_rebounding`) — both together: the queries with which every
     text is marked completely are those that are not rebounding.

  An example is the query of a dot, an `i`, a dot and an `i` (`not_complete_dotted`).  The text
  begins with the first three of these and the dotted capital, which folds to `i` and a dot.  The
  first occurrence ends with that `i`, and its mark takes the whole capital.  The next occurrence
  begins with the dot of the capital.  It is passed over, and with it the characters that it shares
  with the one behind it, which is lost.
-/
import DocIndex.Proofs.Markup.Marking
import DocIndex.Proofs.Text.Occurrence

namespace DocIndex.Markup

open Text

/-- No stretch that is left unmarked holds the query. -/
def Complete (text query : String) : Prop :=
  ∀ gap, Piece.plain gap ∈ pieces text.toList query.toList →
    holds (String.ofList gap) (folded query) = false

/-- The needle begins with the dot of the dotted capital, ends with its letter, and, moved to the right by
    `shift` characters, still fits over itself. -/
structure Rebounding (needle : List Char) : Prop where
  first : needle.head? = some '\u0307'
  last : needle.getLast? = some 'i'
  overlaps : ∃ shift, 0 < shift ∧ shift < needle.length ∧ needle.drop shift <+: needle

/-! ## How an occurrence gets lost

  From the layout: a stretch is unmarked because all that occurs in it is hidden, and what hides it
  is the end of the mark in front. -/

/-- What is hidden in a text is hidden in a front of it that holds the occurrence. -/
theorem Hidden.of_front {needle tail gap more a b : List Char}
    (h : Hidden needle tail (gap ++ more) a.length) (hoccurs : fold gap = a ++ needle ++ b) :
    Hidden needle tail gap a.length := by
  obtain ⟨htail, hfront, hreach⟩ := h
  refine ⟨htail, ?_, hreach⟩
  rw [fold_append, ← List.append_assoc] at hfront
  refine List.prefix_of_prefix_length_le hfront (List.prefix_append _ _) ?_
  rw [hoccurs]
  simp only [List.length_append]
  omega

/-- A stretch that holds the needle is right behind a mark that hides it, or it is the first one. -/
theorem Layout.unmarked {needle tail rest : List Char} {ps : List Piece} (hne : needle ≠ [])
    (h : Layout needle tail rest ps) {before after : List Piece} {gap a b : List Char}
    (hps : ps = before ++ .plain gap :: after) (hoccurs : fold gap = a ++ needle ++ b) :
    (before = [] ∧ Hidden needle tail gap a.length) ∨
      ∃ before' x mark y, before = before' ++ [.marked mark] ∧ Covers needle x mark y ∧
        Hidden needle y gap a.length := by
  induction h generalizing before with
  | @last tail rest hidden =>
    cases before with
    | nil =>
      obtain ⟨hgap, -⟩ := List.cons.inj hps
      cases hgap
      exact .inl ⟨rfl, hidden a b hoccurs⟩
    | cons p before =>
      obtain ⟨-, hnil⟩ := List.cons.inj hps
      exact absurd hnil.symm (by simp)
  | @mark tail gap' mark rest x y ps covers hidden _ behind ih =>
    match before with
    -- the stretch in front of the first mark: what occurs in it occurs before the mark
    | [] =>
      obtain ⟨hgap, -⟩ := List.cons.inj hps
      cases hgap
      refine .inl ⟨rfl, ?_⟩
      have hpos := List.length_pos_iff.mpr hne
      have hearly : a.length < (fold gap ++ x).length := by
        rw [hoccurs]
        simp only [List.length_append]
        omega
      have hwhole : fold (gap ++ mark ++ rest) = a ++ needle ++ (b ++ fold (mark ++ rest)) := by
        rw [List.append_assoc, fold_append, hoccurs, List.append_assoc]
      have hhidden := hidden a _ hwhole hearly
      rw [List.append_assoc] at hhidden
      exact hhidden.of_front hoccurs
    -- the second piece is a mark
    | [p] =>
      obtain ⟨-, hps⟩ := List.cons.inj hps
      obtain ⟨hmark, -⟩ := List.cons.inj hps
      cases hmark
    -- a stretch further behind, by induction; its mark may be the one at hand
    | p :: q :: before =>
      obtain ⟨rfl, htail⟩ := List.cons.inj hps
      obtain ⟨rfl, hbehind⟩ := List.cons.inj htail
      refine .inr ?_
      rcases ih hbehind with ⟨rfl, hhidden⟩ | ⟨before', x', mark', y', rfl, hcovers, hhidden⟩
      · exact ⟨[.plain gap'], x, mark, y, rfl, covers, hhidden⟩
      · exact ⟨.plain gap' :: .marked mark :: before', x', mark', y', rfl, hcovers, hhidden⟩

/-- A mark with a tail ends with the dotted capital, and the needle with the letter of it. -/
theorem Covers.of_tail {needle x mark y : List Char} (h : Covers needle x mark y) (hne : needle ≠ [])
    (htail : y ≠ []) :
    ∃ cs, mark = cs ++ ['\u0130'] ∧ y = ['\u0307'] ∧ needle.getLast? = some 'i' := by
  obtain ⟨cs, c, hmark, hlast⟩ := h.last
  have hpos := List.length_pos_iff.mpr htail
  obtain ⟨rfl, hlower⟩ := eq_dotted_of_length_lower (c := c) (by omega)
  have hone : y.length = ['\u0307'].length := by
    rw [hlower, List.length_cons, List.length_singleton] at hlast
    rw [List.length_singleton]
    omega
  -- the needle ends one character before the end of what the mark folds to
  have hfold : (x ++ needle) ++ y = (fold cs ++ ['i']) ++ ['\u0307'] := by
    rw [← h.folds, hmark, fold_append, fold_cons, hlower, fold_nil]
    simp
  obtain ⟨hneedle, rfl⟩ := List.append_inj' hfold hone
  refine ⟨cs, hmark, rfl, ?_⟩
  obtain ⟨ds, d, rfl⟩ := (List.eq_nil_or_concat needle).resolve_left hne
  rw [List.concat_eq_append, ← List.append_assoc] at hneedle
  obtain ⟨-, hend⟩ := List.append_inj' hneedle rfl
  rw [List.concat_eq_append, List.getLast?_concat, (List.cons.inj hend).1]

/-- An occurrence that is hidden by the dot overlaps the one that begins there. -/
theorem Hidden.overlaps {needle gap a b : List Char} (h : Hidden needle ['\u0307'] gap a.length)
    (hoccurs : fold gap = a ++ needle ++ b) :
    needle.head? = some '\u0307' ∧
      ∃ shift, 0 < shift ∧ shift < needle.length ∧ needle.drop shift <+: needle := by
  obtain ⟨-, ⟨more, hfront⟩, hreach⟩ := h
  rw [List.length_singleton] at hreach
  refine ⟨?_, a.length + 1, Nat.succ_pos _, by omega, ?_⟩
  · cases needle with
    | nil => exact absurd hreach (Nat.not_lt_zero _)
    | cons d ds => rw [List.head?_cons, (List.cons.inj hfront).1]
  · -- both occurrences, from the beginning of the second one on
    have hdrop : needle.drop (a.length + 1) ++ more = needle ++ b := by
      have h := congrArg (List.drop (a.length + 1)) hfront
      rw [List.drop_append_of_le_length (by omega), hoccurs, List.append_assoc] at h
      simpa using h
    refine List.prefix_of_prefix_length_le ⟨more, hdrop⟩ (List.prefix_append needle b) ?_
    rw [List.length_drop]
    omega

/-- Where a stretch holds the query, the dotted capital stands in front of it, the query begins at its
    dot, and the query is rebounding. -/
theorem unmarked_pieces {query : List Char} (hquery : query ≠ []) {text gap : List Char}
    {before after : List Piece} (hpieces : pieces text query = before ++ .plain gap :: after)
    (hholds : fold query <:+: fold gap) :
    (∃ before' cs, before = before' ++ [.marked (cs ++ ['\u0130'])]) ∧
      fold query <+: '\u0307' :: fold gap ∧ Rebounding (fold query) := by
  have hne : fold query ≠ [] := fold_ne_nil hquery
  obtain ⟨a, b, hoccurs⟩ := hholds
  rcases (layout_pieces hquery text).unmarked hne hpieces hoccurs.symm with
    ⟨-, hhidden⟩ | ⟨before', x, mark, y, hbefore, hcovers, hhidden⟩
  · exact absurd rfl hhidden.1
  · obtain ⟨cs, rfl, rfl, hlast⟩ := hcovers.of_tail hne hhidden.1
    obtain ⟨hfirst, hoverlaps⟩ := hhidden.overlaps hoccurs.symm
    exact ⟨⟨before', cs, hbefore⟩, hhidden.2.1, hfirst, hlast, hoverlaps⟩

/-! ## All rebounding queries lose an occurrence

  The text is built from the query so that the dotted capital is the only character that is not
  small, and its two halves belong to two different occurrences. -/

/-- The pieces of a rebounding needle: its front, its back, and what makes a second copy of it out of
    the part by which it overlaps itself. -/
theorem Rebounding.parts {needle : List Char} (h : Rebounding needle) :
    ∃ front back lead extra, needle = front ++ ['i'] ∧ needle = '\u0307' :: back ∧
      back ++ extra = lead ++ needle ∧ lead.length + 1 < needle.length ∧ extra <:+ needle := by
  obtain ⟨front, hfront⟩ := List.getLast?_eq_some_iff.mp h.last
  obtain ⟨back, hback⟩ := List.head?_eq_some_iff.mp h.first
  obtain ⟨shift, hpos, hlt, extra, hextra⟩ := h.overlaps
  obtain ⟨n, rfl⟩ : ∃ n, shift = n + 1 := ⟨shift - 1, by omega⟩
  have hdrop : needle.drop (n + 1) = back.drop n := by rw [hback, List.drop_succ_cons]
  have hlength : needle.length = back.length + 1 := by rw [hback, List.length_cons]
  refine ⟨front, back, back.take n, extra, hfront, hback, ?_, ?_, ?_⟩
  · calc back ++ extra
        = back.take n ++ (back.drop n ++ extra) := by
          rw [← List.append_assoc, List.take_append_drop]
      _ = back.take n ++ needle := by rw [← hdrop, hextra]
  · rw [List.length_take]
    omega
  · exact ⟨needle.drop (n + 1), hextra⟩

/-- If an occurrence begins with the text, so does the first mark. -/
theorem Layout.of_front {needle text : List Char} {ps : List Piece} (h : Layout needle [] text ps)
    (hfront : needle <+: fold text) :
    ∃ mark y rest behind, text = mark ++ rest ∧ ps = .plain [] :: .marked mark :: behind ∧
      Covers needle [] mark y ∧ Layout needle y rest behind := by
  obtain ⟨b, hoccurs⟩ := hfront
  cases h with
  | last hidden => exact absurd rfl (hidden [] b hoccurs.symm).1
  | @mark _ gap mark rest x y ps covers hidden _ behind =>
    have hstart : (fold gap ++ x).length = 0 :=
      Nat.eq_zero_of_not_pos fun hpos => (hidden [] b hoccurs.symm hpos).1 rfl
    obtain ⟨hgap, rfl⟩ := List.append_eq_nil_iff.mp (List.eq_nil_of_length_eq_zero hstart)
    obtain rfl := (fold_eq_nil_iff gap).mp hgap
    exact ⟨mark, y, rest, ps, rfl, rfl, covers, behind⟩

section Seam

variable {needle front lead extra : List Char}

/-- A mark at the start of the text ends with the dotted capital on the seam. -/
theorem Covers.seam {mark y rest rest' : List Char} (h : Covers needle [] mark y)
    (hsame : fold front = front) (hfront : needle = front ++ ['i'])
    (hcut : front ++ '\u0130' :: rest = mark ++ rest') :
    mark = front ++ ['\u0130'] ∧ y = ['\u0307'] ∧ rest' = rest := by
  have hdotted : lower '\u0130' = ['i', '\u0307'] := rfl
  have hfolds : fold mark = needle ++ y := h.folds
  rw [hfront] at hfolds
  have hlength := congrArg List.length hfolds
  have htail := h.length_le
  simp only [List.length_append, List.length_singleton] at hlength
  rcases List.append_eq_append_iff.mp hcut with ⟨more, rfl, hbehind⟩ | ⟨more, hmore, -⟩
  · cases more with
    | nil =>
      -- without the capital the mark would be too short
      rw [List.append_nil, hsame] at hlength
      omega
    | cons c more =>
      obtain ⟨rfl, rfl⟩ := List.cons.inj hbehind
      rw [fold_append, hsame, fold_cons, hdotted] at hlength hfolds
      simp only [List.length_append, List.length_cons, List.length_nil] at hlength
      obtain rfl := (fold_eq_nil_iff more).mp (List.eq_nil_of_length_eq_zero (by omega))
      have hy : y = ['\u0307'] := by simpa using hfolds.symm
      exact ⟨rfl, hy, rfl⟩
  · -- nor may the mark end before the capital
    rw [hmore, fold_append] at hsame
    have hshort := congrArg List.length hsame
    rw [hmore] at hlength
    simp only [List.length_append] at hshort hlength
    omega

/-- The first mark ends there. -/
theorem Layout.first_mark {ps : List Piece} {rest : List Char} (hsame : fold front = front)
    (hfront : needle = front ++ ['i']) (h : Layout needle [] (front ++ '\u0130' :: rest) ps) :
    ∃ behind, ps = .plain [] :: .marked (front ++ ['\u0130']) :: behind ∧
      Layout needle ['\u0307'] rest behind := by
  have hdotted : lower '\u0130' = ['i', '\u0307'] := rfl
  have hoccurs : needle <+: fold (front ++ '\u0130' :: rest) := by
    refine ⟨'\u0307' :: fold rest, ?_⟩
    rw [fold_append, hsame, fold_cons, hdotted, hfront]
    simp
  obtain ⟨mark, y, rest', behind, hcut, rfl, hcovers, hbehind⟩ := h.of_front hoccurs
  obtain ⟨rfl, rfl, rfl⟩ := hcovers.seam hsame hfront hcut
  exact ⟨behind, rfl, hbehind⟩

/-- Behind it everything is hidden. -/
theorem Layout.all_hidden {ps : List Piece} {rest : List Char}
    (hrest : '\u0307' :: fold rest = needle ++ extra) (hlead : fold rest = lead ++ needle)
    (hshort : lead.length + 1 < needle.length) (h : Layout needle ['\u0307'] rest ps) :
    ps = [.plain rest] := by
  cases h with
  | last _ => rfl
  | @mark _ gap mark rest x y ps covers _ shown _ =>
    -- the last occurrence is hidden, and so are all before it
    refine absurd ⟨List.cons_ne_nil _ _, ⟨extra, hrest.symm⟩, ?_⟩ shown
    have hlength := congrArg List.length hlead
    rw [fold_append, fold_append, covers.folds] at hlength
    simp only [List.length_append, List.length_singleton] at hlength ⊢
    omega

end Seam

/-- **All rebounding queries lose an occurrence**, in the text of the query without its last
    letter, the dotted capital, and enough to make two more occurrences that overlap.  The first of
    these begins with the dot of the capital. -/
theorem not_complete_of_rebounding {query : String} (h : Rebounding (fold query.toList)) :
    ∃ text, ¬ Complete text query := by
  obtain ⟨front, back, lead, extra, hfront, hback, hlead, hshort, hextra⟩ := h.parts
  have hquery : query.toList ≠ [] := by
    intro hnil
    have hfirst := h.first
    rw [hnil] at hfirst
    cases hfirst
  have hfolded : ∀ ds, (∀ d ∈ ds, d ∈ fold query.toList) → fold ds = ds :=
    fun ds => fold_of_forall_mem_fold
  have hsame : fold front = front := by
    refine hfolded front fun d hd => ?_
    rw [hfront]
    exact List.mem_append_left _ hd
  -- behind the seam stands the needle without its dot, and what makes it a second occurrence
  have hrest : fold (back ++ extra) = back ++ extra := by
    refine hfolded _ fun d hd => ?_
    rcases List.mem_append.mp hd with hd | hd
    · rw [hback]
      exact List.mem_cons_of_mem _ hd
    · exact hextra.subset hd
  have hdot : '\u0307' :: fold (back ++ extra) = fold query.toList ++ extra := by
    rw [hrest, hback, List.cons_append]
  have hlayout := layout_pieces hquery (front ++ '\u0130' :: (back ++ extra))
  obtain ⟨ps, hps, hbehind⟩ := hlayout.first_mark hsame hfront
  have hgap := hbehind.all_hidden hdot (hrest.trans hlead) hshort
  refine ⟨String.ofList (front ++ '\u0130' :: (back ++ extra)), fun hcomplete => ?_⟩
  have hfalse := hcomplete (back ++ extra) (by
    rw [String.toList_ofList, hps, hgap]
    simp)
  have htrue : holds (String.ofList (back ++ extra)) (folded query) = true := by
    rw [holds_folded_iff, String.toList_ofList, hrest, hlead]
    exact (List.suffix_append lead _).isInfix
  rw [htrue] at hfalse
  cases hfalse

/-- **What is left unmarked.**  For every query that is not empty:

    * every text is marked completely with it, exactly if it is not rebounding;
    * where a stretch without a mark holds the query, whatever the text, the stretch stands right behind a
      mark that ends with the dotted capital, and an occurrence begins at the dot of that capital. -/
theorem complete_iff_not_rebounding (query : String) (nonempty : query ≠ "") :
    ((∀ text, Complete text query) ↔ ¬ Rebounding (fold query.toList)) ∧
    ∀ (text : String) before gap after,
      pieces text.toList query.toList = before ++ .plain gap :: after →
      holds (String.ofList gap) (folded query) = true →
      (∃ before' cs, before = before' ++ [.marked (cs ++ ['\u0130'])]) ∧
        fold query.toList <+: '\u0307' :: fold gap := by
  have hquery : query.toList ≠ [] := fun h => nonempty (String.toList_eq_nil_iff.mp h)
  refine ⟨⟨fun hcomplete hrebounding => ?_, fun hnot text gap hgap => ?_⟩, ?_⟩
  · obtain ⟨text, hincomplete⟩ := not_complete_of_rebounding hrebounding
    exact hincomplete (hcomplete text)
  · refine Bool.eq_false_iff.mpr fun hholds => hnot ?_
    rw [holds_folded_iff, String.toList_ofList] at hholds
    obtain ⟨before, after, hpieces⟩ := List.append_of_mem hgap
    exact (unmarked_pieces hquery hpieces hholds).2.2
  · intro text before gap after hpieces hholds
    rw [holds_folded_iff, String.toList_ofList] at hholds
    obtain ⟨hbefore, hdot, -⟩ := unmarked_pieces hquery hpieces hholds
    exact ⟨hbefore, hdot⟩

/-- A query of letters is never left unmarked. -/
theorem complete_user : "User" ≠ "" ∧ ∀ text, Complete text "User" := by
  refine ⟨by decide, (complete_iff_not_rebounding "User" (by decide)).1.mpr fun h => ?_⟩
  exact absurd h.first (by decide +kernel)

/-- The occurrence that begins with the first dot of the last stretch is lost. -/
theorem not_complete_dotted :
    ¬ Complete "\u0307i\u0307\u0130i\u0307i\u0307i" "\u0307i\u0307i" := by
  intro hcomplete
  have hgap : Piece.plain ['i', '\u0307', 'i', '\u0307', 'i'] ∈
      pieces "\u0307i\u0307\u0130i\u0307i\u0307i".toList "\u0307i\u0307i".toList := by
    decide +kernel
  have hholds : holds (String.ofList ['i', '\u0307', 'i', '\u0307', 'i'])
      (folded "\u0307i\u0307i") = true := by decide +kernel
  rw [hcomplete _ hgap] at hholds
  cases hholds

end DocIndex.Markup
