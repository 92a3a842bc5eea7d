/-
  HIGHLIGHTING LOSES NOTHING AND MARKS WHAT MATCHES.

  A highlighted text is read by someone who sees tags and entities only.  What the reader should find is
  defined here by a text that is cut into stretches (`Marked`), without the search and without offsets:

  1. **What is written** — each stretch is escaped for itself, and the marks are wrapped in their tags.
     An escaped text holds no `<`, so `<mark>` in the output is always a tag, also where the text
     itself reads `<mark>`.

  2. **What is left without the tags** (`withoutMarks_html`) — the escaped text.

  3. **Main statement** (`highlight_marks_query`) — a text can always be cut, the stretches are the text
     again, each mark holds the query, and there is a mark exactly if the text holds the query.
-/
import DocIndex.Proofs.Markup.Marking
import DocIndex.Proofs.Markup.Reading
import DocIndex.Proofs.Text.Occurrence

namespace DocIndex.Markup

open Text

/-! ## A text cut into stretches

  The stretches alternate, as `Marked` has it by its shape; a `Layout` begins and ends with an
  unmarked stretch too, which may be empty. -/

/-- A text with marks: what stands before the first mark, and each mark with what stands behind it, up to
    the next one. -/
structure Marked where
  before : String
  marks : List (String × String)

/-- The text without regard to its marks. -/
def Marked.text (m : Marked) : String :=
  m.before ++ String.join (m.marks.map fun (mark, behind) => mark ++ behind)

/-- The text as it is to be written: every stretch escaped, every mark between its tags. -/
def Marked.written (m : Marked) : String :=
  (escape m.before).written ++ String.join (m.marks.map fun (mark, behind) =>
    "<mark>" ++ (escape mark).written ++ "</mark>" ++ (escape behind).written)

/-- The text as the stretches in their order. -/
def Marked.pieces (m : Marked) : List Piece :=
  .plain m.before.toList ::
    m.marks.flatMap fun (mark, behind) => [.marked mark.toList, .plain behind.toList]

/-- The mark is not empty and holds the query. -/
def MarksQuery (query mark : String) : Prop := mark ≠ "" ∧ holds mark (folded query) = true

/-- Marks that were laid out are a text with marks. -/
theorem Layout.exists_marked {query : String} {tail rest : List Char} {ps : List Piece}
    (h : Layout (fold query.toList) tail rest ps) :
    ∃ m : Marked, m.pieces = ps ∧ ∀ p ∈ m.marks, MarksQuery query p.1 := by
  induction h with
  | @last _ rest _ =>
    refine ⟨⟨String.ofList rest, []⟩, ?_, by simp⟩
    simp [Marked.pieces]
  | @mark _ gap mark _ _ _ ps covers _ _ _ ih =>
    -- the stretch behind the mark is the first of what follows
    obtain ⟨⟨before, marks⟩, rfl, hmarks⟩ := ih
    refine ⟨⟨String.ofList gap, (String.ofList mark, before) :: marks⟩, ?_, ?_⟩
    · simp [Marked.pieces]
    · intro p hp
      rcases List.mem_cons.mp hp with rfl | hp
      · refine ⟨fun hempty => covers.ne_nil (String.ofList_eq_empty_iff.mp hempty), ?_⟩
        rw [holds_folded_iff, String.toList_ofList]
        exact covers.holds
      · exact hmarks p hp

/-! ## What is written

  The specification is about strings and the program about lists of characters; both are brought to
  the stretches. -/

/-- A stretch as it is written. -/
def Piece.written : Piece → List Char
  | .plain cs => escapeChars cs
  | .marked cs => openTag "mark" [] ++ escapeChars cs ++ closeTag "mark"

theorem openTag_mark : "<mark>".toList = openTag "mark" [] := by decide

theorem closeTag_mark : "</mark>".toList = closeTag "mark" := by decide

/-- What is rendered for the stretches is what is written for each of them. -/
theorem renderAll_pieces (ps : List Piece) :
    renderAll (ps.map Piece.markup) = ps.flatMap Piece.written := by
  induction ps with
  | nil => rfl
  | cons p ps ih =>
    rw [List.map_cons, renderAll, ih, List.flatMap_cons]
    cases p with
    | plain cs => rw [Piece.markup, Piece.written, render, String.toList_ofList]
    | marked cs =>
      rw [Piece.markup, Piece.written, render, renderAll, renderAll, render, String.toList_ofList,
        List.append_nil]

/-- The text of the marks, as the characters of its stretches. -/
theorem Marked.toList_text (m : Marked) : m.text.toList = m.pieces.flatMap Piece.chars := by
  obtain ⟨before, marks⟩ := m
  simp only [Marked.text, Marked.pieces, String.toList_append, String.toList_join, List.flatMap_cons,
    Piece.chars]
  congr 1
  induction marks with
  | nil => rfl
  | cons p marks ih => simp [Piece.chars, ih]

/-- What is to be written for the marks, as what is written for each stretch. -/
theorem Marked.toList_written (m : Marked) : m.written.toList = m.pieces.flatMap Piece.written := by
  obtain ⟨before, marks⟩ := m
  simp only [Marked.written, Marked.pieces, String.toList_append, String.toList_join,
    List.flatMap_cons, Piece.written, toList_written_escape]
  congr 1
  induction marks with
  | nil => rfl
  | cons p marks ih =>
    simp only [List.map_cons, List.flatMap_cons, String.toList_append, toList_written_escape,
      openTag_mark, closeTag_mark, Piece.written, ih, List.cons_append, List.nil_append,
      List.append_assoc]

/-! ## What is left without the tags

  Only the two tags of marks are deleted; another tag would be left standing, with its brackets,
  and would show. -/

/-- What stands for a part of the output once the tags of marks are deleted. -/
def Part.unlessMark : Part → List Char
  | .char c => [c]
  | .tag inside =>
    if inside = "mark".toList ∨ inside = "/mark".toList then [] else '<' :: inside ++ ['>']

/-- The text with the tags of marks deleted, and nothing else. -/
def withoutMarks (text : List Char) : List Char := (parts text).flatMap Part.unlessMark

/-- Highlighting uses no tags but `mark`. -/
theorem properAll_pieces {known : List Char → Prop} (hmark : known "mark".toList) (ps : List Piece) :
    ProperAll known (ps.map Piece.markup) := by
  rw [properAll_iff]
  intro m hm
  obtain ⟨piece, -, rfl⟩ := List.mem_map.mp hm
  cases piece with
  | plain cs => trivial
  | marked cs => exact ⟨by decide, by decide, hmark, trivial, trivial⟩

theorem flatMap_unlessMark_chars (cs : List Char) :
    (cs.map Part.char).flatMap Part.unlessMark = cs := by
  rw [List.flatMap_map]
  exact List.flatMap_singleton' cs

/-- Of each stretch the escaped characters are left, whether it was marked or not. -/
theorem flatMap_unlessMark_partsOf (p : Piece) :
    (partsOf p.markup).flatMap Part.unlessMark = escapeChars p.chars := by
  cases p with
  | plain cs =>
    rw [Piece.markup, partsOf, flatMap_unlessMark_chars, String.toList_ofList, Piece.chars]
  | marked cs =>
    -- both tags are deleted
    have hopening : Part.unlessMark (.tag (inside "mark" [])) = [] := by
      rw [Part.unlessMark, if_pos (.inl rfl)]
    have hclosing : Part.unlessMark (.tag ('/' :: "mark".toList)) = [] := by
      rw [Part.unlessMark, if_pos (.inr rfl)]
    rw [Piece.markup, partsOf, partsOfAll, partsOfAll, partsOf, List.flatMap_cons,
      List.flatMap_append, List.flatMap_append, flatMap_unlessMark_chars, hopening,
      List.flatMap_singleton, hclosing, String.toList_ofList, Piece.chars]
    simp

/-- **What is left without the tags** is the escaped text.  The reader is the general one: it does
    not know where the marks were put. -/
theorem withoutMarks_html (ps : List Piece) :
    withoutMarks (html (ps.map Piece.markup)).toList = escapeChars (ps.flatMap Piece.chars) := by
  have hproper : ProperAll (fun _ => True) (ps.map Piece.markup) := properAll_pieces trivial ps
  rw [withoutMarks, parts_html hproper]
  induction ps with
  | nil => rfl
  | cons p ps ih =>
    rw [List.map_cons, partsOfAll, List.flatMap_append, flatMap_unlessMark_partsOf,
      List.flatMap_cons, escapeChars_append, ih hproper.2]

/-! ## Marks and matches

  A mark in the output, a mark of the cut text and an occurrence of the query come to the same. -/

/-- The output holds a mark exactly if one was made. -/
theorem Marked.mark_written_iff (m : Marked) :
    "<mark>".toList <:+: m.written.toList ↔ m.marks ≠ [] := by
  obtain ⟨before, marks⟩ := m
  cases marks with
  | nil =>
    -- an escaped text holds no `<`
    refine ⟨fun hinfix => ?_, fun hne => absurd rfl hne⟩
    have hmem := hinfix.subset (show '<' ∈ "<mark>".toList by decide)
    have hplain : '<' ∈ escapeChars before.toList := by
      simpa [Marked.written, toList_written_escape] using hmem
    exact absurd hplain (not_mem_escapeChars (by decide) (by decide) _)
  | cons p marks =>
    -- the first mark can be pointed at
    refine ⟨fun _ => List.cons_ne_nil p marks, fun _ => ?_⟩
    simp only [Marked.written, List.map_cons, String.join_cons, String.toList_append]
    refine ⟨(escape before).written.toList, ?_, ?_⟩
    · exact (escape p.1).written.toList ++ "</mark>".toList ++ (escape p.2).written.toList ++
        (String.join (marks.map fun (mark, behind) =>
          "<mark>" ++ (escape mark).written ++ "</mark>" ++ (escape behind).written)).toList
    · simp only [List.append_assoc]

theorem Marked.marks_ne_nil_iff (m : Marked) :
    m.marks ≠ [] ↔ ∃ cs, Piece.marked cs ∈ m.pieces := by
  obtain ⟨before, marks⟩ := m
  cases marks with
  | nil => simp [Marked.pieces]
  | cons p marks =>
    refine ⟨fun _ => ⟨p.1.toList, ?_⟩, fun _ => List.cons_ne_nil p marks⟩
    simp [Marked.pieces]

/-- From the start of a text on nothing is hidden: there is a mark exactly if there is an occurrence. -/
theorem Layout.exists_mark_iff {needle rest : List Char} {ps : List Piece}
    (h : Layout needle [] rest ps) : (∃ cs, Piece.marked cs ∈ ps) ↔ needle <:+: fold rest := by
  cases h with
  -- no mark: what is hidden is hidden by a mark, and there was none before
  | last hidden =>
    constructor
    · rintro ⟨cs, hmem⟩
      simp at hmem
    · rintro ⟨a, b, hoccurs⟩
      exact absurd rfl (hidden a b hoccurs.symm).1
  | @mark _ gap mark rest x y ps covers =>
    constructor
    · intro _
      refine covers.holds.trans ?_
      rw [fold_append, fold_append]
      exact List.infix_append (fold gap) (fold mark) (fold rest)
    · intro _
      exact ⟨mark, by simp⟩

/-- **Highlighting loses nothing and marks what matches.**  Every text can be cut for every query, at
    places of the text only, into stretches of which some are marked:

    * together the stretches are the text;
    * the output is the stretches, each escaped, and the marks between their tags;
    * every mark holds the query and is not empty;
    * without the tags of the marks the output is the escaped text;
    * there is a mark exactly if the output holds `<mark>`, and exactly if the query is not empty and the
      text holds it. -/
theorem highlight_marks_query (text query : String) :
    ∃ m : Marked,
      pieces? text.toList query.toList = some m.pieces ∧
      m.text = text ∧
      html (highlight text query) = m.written ∧
      (∀ p ∈ m.marks, MarksQuery query p.1) ∧
      withoutMarks (html (highlight text query)).toList = (escape text).written.toList ∧
      (m.marks ≠ [] ↔ "<mark>".toList <:+: (html (highlight text query)).toList) ∧
      (m.marks ≠ [] ↔ query ≠ "" ∧ holds text (folded query) = true) := by
  -- the stretches, with what distinguishes the empty query
  have hcut : ∃ m : Marked, pieces? text.toList query.toList = some m.pieces ∧
      (∀ p ∈ m.marks, MarksQuery query p.1) ∧
      (m.marks ≠ [] ↔ query ≠ "" ∧ holds text (folded query) = true) := by
    by_cases hquery : query = ""
    · refine ⟨⟨text, []⟩, ?_, ?_, ?_⟩
      · rw [hquery]
        exact pieces?_nil_query _
      · intro p hp
        cases hp
      · exact ⟨fun h => absurd rfl h, fun h => absurd hquery h.1⟩
    · have hne : query.toList ≠ [] := fun h => hquery (String.toList_eq_nil_iff.mp h)
      obtain ⟨ps, hps, hlayout⟩ := layout_pieces? hne text.toList
      obtain ⟨m, rfl, hmarks⟩ := hlayout.exists_marked
      refine ⟨m, hps, hmarks, ?_⟩
      rw [m.marks_ne_nil_iff, hlayout.exists_mark_iff, holds_folded_iff]
      exact ⟨fun h => ⟨hquery, h⟩, fun h => h.2⟩
  obtain ⟨m, hm, hmarks, hmatch⟩ := hcut
  have hpieces : pieces text.toList query.toList = m.pieces := by rw [pieces, hm]; rfl
  have hwritten : html (highlight text query) = m.written := by
    rw [highlight, hpieces, html, renderAll_pieces, ← m.toList_written, String.ofList_toList]
  refine ⟨m, hm, ?_, hwritten, hmarks, ?_, ?_, hmatch⟩
  · refine String.toList_inj.mp ?_
    rw [m.toList_text, ← hpieces, flatMap_chars_pieces]
  · rw [highlight, withoutMarks_html, flatMap_chars_pieces, toList_written_escape]
  · rw [hwritten, m.mark_written_iff]

-- a text that reads like a mark is no mark
example : html (highlight "<mark>List" "list") = "&lt;mark&gt;<mark>List</mark>" := by
  decide +kernel

end DocIndex.Markup
