/-
  SHOWN TOKENS ARE A NORMAL FORM.

  Showing tokens puts a space behind every comma and every bound that was split off, and drops all
  blanks around words.  The scan cuts at spaces behind a bound, so a space more or less might make a cut
  or undo one.

  1. **Stretches without a cut** (`Whole`) — the scan goes through a stretch if at none of its spaces a
     bound stands in front, and `scan_through` takes it in as one piece.  `Uncut` of the reading rules
     is less: it looks at the word's beginning only, and would let pass what is cut behind a blank other
     than a space.

  2. **Blanks around a word do not matter** (`Whole.around_trim`) — whether there is a cut depends on the
     trimmed text in front of a space, and that is the same with other blanks in front.

  3. **The run** (`scan_spelled`) — the induction follows the scan; its invariant is that the stretch kept
     so far is whole.
-/
import DocIndex.Proofs.TypeExpr.Tokens

namespace DocIndex
namespace Token

open Text (Blank trim)

/-! ## Stretches without a cut

  To read what is shown one has to know where the scan does not stop.  `Whole` says it for every
  space of the stretch, and so it can be split at any place. -/

/-- The scan meets neither a delimiter nor a space behind a bound. -/
structure Whole (cs : List Char) : Prop where
  noDelimiter : ∀ c ∈ cs, c ∉ delimiters
  noBound : ∀ front, front ++ [' '] <+: cs → String.ofList (trim front) ∉ bounds

theorem whole_nil : Whole [] where
  noDelimiter := fun _ hc => absurd hc List.not_mem_nil
  noBound := fun front hfront =>
    absurd (List.prefix_nil.mp hfront) (List.append_ne_nil_of_right_ne_nil front (List.cons_ne_nil _ _))

/-- The invariant grows with the scan, like `Uncut` does. -/
theorem Whole.snoc {cs : List Char} (h : Whole cs) {c : Char} (plain : c ∉ delimiters)
    (goesOn : c = ' ' → String.ofList (trim cs) ∉ bounds) : Whole (cs ++ [c]) where
  noDelimiter := noDelimiter_snoc h.noDelimiter plain
  noBound := by
    intro front hfront
    rcases List.prefix_concat_iff.mp hfront with heq | hfront
    · -- the new character is the space
      obtain ⟨rfl, hspace⟩ := List.append_inj' heq rfl
      exact goesOn (List.singleton_inj.mp hspace).symm
    · exact h.noBound front hfront

/-- The scan takes in a whole stretch. -/
theorem scan_through {before cs : List Char} (h : Whole (before ++ cs)) (ds : List Char) :
    scan before (cs ++ ds) = scan (before ++ cs) ds := by
  induction cs generalizing before with
  | nil => rw [List.append_nil, List.nil_append]
  | cons c cs ih =>
    have hplain : c ∉ delimiters :=
      h.noDelimiter c (List.mem_append_right _ List.mem_cons_self)
    -- a cut at this space would be one inside of the whole stretch
    have hgo : c = ' ' → String.ofList (trim before) ∉ bounds := by
      rintro rfl
      refine h.noBound before ⟨cs, ?_⟩
      rw [List.append_assoc, List.singleton_append]
    rw [List.append_cons] at h ⊢
    rw [List.cons_append, scan_other hplain hgo, ih h]

/-! ## Blanks around a word

  What is shown in front of a word is a delimiter with at most one space, whatever stood there in
  the expression. -/

theorem not_mem_delimiters_of_blank {c : Char} (h : Text.isBlank c = true) : c ∉ delimiters := by
  intro hdelimiter
  rw [not_blank_of_mem_delimiters hdelimiter] at h
  cases h

theorem ofStretch_congr {cs ds : List Char} (h : trim cs = trim ds) : ofStretch cs = ofStretch ds := by
  rw [ofStretch, ofStretch, h]

/-- Trimmed text with other blanks in front is trimmed to the same. -/
theorem trim_around {lead : List Char} (hlead : Blank lead) (cs : List Char) :
    trim (lead ++ trim cs) = trim cs := by
  rw [Text.trim_blank_append hlead, Text.trim_trim]

/-- A whole stretch stays whole if it is trimmed and other blanks are put in front. -/
theorem Whole.around_trim {lead cs : List Char} (hlead : Blank lead) (h : Whole cs) :
    Whole (lead ++ trim cs) where
  noDelimiter := by
    intro c hc
    rcases List.mem_append.mp hc with hc | hc
    · exact not_mem_delimiters_of_blank (hlead c hc)
    · exact h.noDelimiter c (Text.mem_of_mem_trim hc)
  noBound := by
    intro front hfront
    obtain ⟨more, hmore⟩ := hfront
    rw [List.append_assoc] at hmore
    rcases List.append_eq_append_iff.mp hmore with ⟨blanks, rfl, -⟩ | ⟨word, rfl, hword⟩
    · -- only blanks stand in front of the space
      have hfront : Blank front := fun c hc => hlead c (List.mem_append_left _ hc)
      rw [Text.trim_of_blank hfront]
      decide
    · -- the same characters stand in the stretch itself, behind its own blanks
      obtain ⟨lead', trail, hcs, hlead', -⟩ := Text.exists_blanks_around cs
      have hspace : lead' ++ word ++ [' '] <+: cs := by
        refine ⟨more ++ trail, ?_⟩
        rw [hcs, hword]
        simp only [List.append_assoc]
      have hnot := h.noBound (lead' ++ word) hspace
      rw [Text.trim_blank_append hlead'] at hnot
      rw [Text.trim_blank_append hlead]
      exact hnot

/-! ## The run

  Both scans go side by side: the one through the expression, which keeps the stretch, and the
  other through what is shown for it.  They come to the same cuts, and between two cuts the second
  has the trimmed stretch where the first has the stretch. -/

/-- The blanks that are shown behind a delimiter. -/
theorem spelled_ofDelimiter (c : Char) :
    ∃ lead, spelled (ofDelimiter c) = c :: lead ∧ Blank lead := by
  rw [ofDelimiter]
  split
  · refine ⟨[' '], by simp [spelled, text], fun x hx => ?_⟩
    rw [List.mem_singleton.mp hx]
    decide
  · exact ⟨[], by simp [spelled, text], Text.blank_nil⟩

theorem spelled_bound (word : List Char) (ts : List Token) :
    spelled (.keyword (String.ofList word) :: .space :: ts) = word ++ ' ' :: spelled ts := by
  rw [spelled_cons, spelled_cons, text, text, String.toList_ofList]
  rfl

/-- **What is shown is read as what was read**, with any blanks in front. -/
theorem scan_spelled (cs : List Char) : ∀ before lead : List Char, Whole before → Blank lead →
    scan [] (lead ++ spelled (scan before cs)) = scan before cs := by
  induction cs with
  | nil =>
    intro before lead whole hlead
    have hwhole : Whole ([] ++ (lead ++ trim before)) := whole.around_trim hlead
    have hthrough := scan_through hwhole []
    rw [List.append_nil, List.nil_append] at hthrough
    rw [scan, spelled_ofStretch, hthrough, scan]
    exact ofStretch_congr (trim_around hlead before)
  | cons c cs ih =>
    intro before lead whole hlead
    have hwhole : Whole ([] ++ (lead ++ trim before)) := whole.around_trim hlead
    rcases scan_cases before c with hdelimiter | ⟨rfl, hbound⟩ | ⟨hplain, hgo⟩
    · -- the delimiter ends both stretches, and the blanks shown behind it are those in front of
      -- what follows
      obtain ⟨lead', hspelled, hlead'⟩ := spelled_ofDelimiter c
      have hshown : lead ++ spelled (ofStretch before ++ ofDelimiter c ++ scan [] cs) =
          (lead ++ trim before) ++ c :: (lead' ++ spelled (scan [] cs)) := by
        rw [spelled_append, spelled_append, spelled_ofStretch, hspelled]
        simp only [List.append_assoc, List.cons_append]
      rw [scan_delimiter hdelimiter, hshown, scan_through hwhole, List.nil_append,
        scan_delimiter hdelimiter, ih [] lead' whole_nil hlead',
        ofStretch_congr (trim_around hlead before)]
    · -- the bound is shown with the space that cut it off, and is cut off by it again
      have hagain : String.ofList (trim (lead ++ trim before)) ∈ bounds := by
        rw [trim_around hlead]
        exact hbound
      have hrest := ih [] [] whole_nil Text.blank_nil
      rw [List.nil_append] at hrest
      rw [scan_bound hbound, spelled_bound, ← List.append_assoc, scan_through hwhole,
        List.nil_append, scan_bound hagain, trim_around hlead, hrest]
    · rw [scan_other hplain hgo]
      exact ih (before ++ [c]) lead (whole.snoc hplain hgo) hlead

/-- The texts of the tokens as one expression. -/
def shown (ts : List Token) : String := String.join (ts.map text)

/-- **Shown tokens are a normal form.**  An expression that is read, shown and read again has the same
    tokens, so that showing it a second time changes nothing. -/
theorem tokens_shown_tokens (expr : String) :
    tokens (shown (tokens expr)) = tokens expr ∧
    shown (tokens (shown (tokens expr))) = shown (tokens expr) := by
  have hagain : tokens (shown (tokens expr)) = tokens expr := by
    have hscan := scan_spelled expr.toList [] [] whole_nil Text.blank_nil
    rw [List.nil_append] at hscan
    rw [tokens_eq_scan (shown _), shown, toList_join_text, tokens_eq_scan expr]
    exact hscan
  exact ⟨hagain, by rw [hagain]⟩

-- a no-break space behind a bound is trimmed off before the space cuts it
example : shown (tokens "Map<extends\u00A0 A ,int >") = "Map<extends A, int>" := by decide

end Token
end DocIndex
