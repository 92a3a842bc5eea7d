/-
  THE ROWS ON SCREEN.

  The dropdown is rendered to text, and the row that is selected by number is the row that the reader of
  the text counts.  Names, signatures, types and the query are arbitrary texts, and each passes through
  escaping, highlighting and nested templates.

  1. **Known tags** (`dropdownTags`) — the tags of the templates.  `properAll_resultMarkup` finds no
     other in the dropdown: no text of an entry and no query can add one, or an attribute to one.

  2. **Highlighting loses nothing** (`contentOfAll_highlight`) — wherever the text is marked, without
     the marks it is the text again.

  3. **Main statement** (`rows_on_screen`) — what a reader finds in the text: as many rows as there are
     results, in the order in which they are walked through, each with its letter, label and context,
     and the headings of the categories that have results.  The number of a row on screen is the number
     by which it is selected.
-/
import DocIndex.Dropdown.Reaction
import DocIndex.Proofs.Markup.Highlighting
import DocIndex.Search.Row

namespace DocIndex

open Markup

/-! ## The templates

  What is fixed about the dropdown are its tags, and there are few enough to list them.  Everything
  else is text or the value of an attribute, and is escaped.  The only attribute that depends on the
  entry is the class of its badge, which depends on the category. -/

/-- The tags inside of a row. -/
def rowTags : List String :=
  ["div class=\"search-result-content\"", "div class=\"search-result-name\"",
    "div class=\"search-result-context\"",
    "span class=\"search-result-badge badge-class\"",
    "span class=\"search-result-badge badge-interface\"",
    "span class=\"search-result-badge badge-enum\"",
    "span class=\"search-result-badge badge-annotation\"",
    "span class=\"search-result-badge badge-method\"",
    "span class=\"search-result-badge badge-field\""]

/-- The tags that open an element in the dropdown. -/
def dropdownTags : List String :=
  ["div class=\"search-empty-state\"", "div class=\"search-facet-section\"",
    "div class=\"search-facet-header\"",
    "div class=\"search-result-item\" role=\"option\" aria-selected=\"false\"", "mark"] ++ rowTags

/-- The tag is one of the dropdown's. -/
def IsDropdownTag (inside : List Char) : Prop := inside ∈ dropdownTags.map String.toList

instance (inside : List Char) : Decidable (IsDropdownTag inside) :=
  inferInstanceAs (Decidable (inside ∈ dropdownTags.map String.toList))

theorem isName_class (value : String) : ∀ a ∈ [("class", value)], isName a.1 = true := by
  intro a ha
  rw [List.mem_singleton.mp ha]
  show isName "class" = true
  decide

/-- A division is proper if its tag is known and what is in it is proper. -/
theorem proper_division {style : String} {children : List Markup}
    (hknown : IsDropdownTag (inside "div" [("class", style)]))
    (hchildren : ProperAll IsDropdownTag children) :
    Proper IsDropdownTag (Row.division style children) :=
  ⟨by decide, isName_class style, hknown, hchildren⟩

/-- Marks are the only tags that highlighting brings in, whatever the text and the query. -/
theorem properAll_highlight (text query : String) :
    ProperAll IsDropdownTag (highlight text query) := properAll_pieces (by decide) _

/-- The badge has one of six classes, whatever the entry holds. -/
theorem badge_mem_rowTags (r : Row) :
    inside "span" [("class", "search-result-badge " ++ r.badgeClass)] ∈
      rowTags.map String.toList := by
  rw [Row.badgeClass]
  rcases r.category with (_ | _ | _ | _) | _ | _ <;> decide

theorem isDropdownTag_of_mem_rowTags {inside : List Char}
    (h : inside ∈ rowTags.map String.toList) : IsDropdownTag inside := by
  rw [IsDropdownTag, dropdownTags, List.map_append]
  exact List.mem_append_right _ h

/-- **A row has no tags but its own.** -/
theorem proper_row (r : Row) (query : String) : Proper IsDropdownTag (r.markup query) := by
  refine ⟨by decide, by decide, by decide, ?_, ?_, trivial⟩
  · -- the badge
    exact ⟨by decide, isName_class _, isDropdownTag_of_mem_rowTags (badge_mem_rowTags r), trivial,
      trivial⟩
  · -- the label, marked, and the context
    refine proper_division (by decide) ⟨?_, ?_, trivial⟩
    · exact proper_division (by decide) (properAll_highlight r.label query)
    · exact proper_division (by decide) ⟨trivial, trivial⟩

/-- The dropdown has no tags but its own. -/
theorem properAll_resultMarkup (b : Buckets) (query : String) :
    ProperAll IsDropdownTag (resultMarkup b query) := by
  rw [resultMarkup]
  split
  · exact ⟨proper_division (by decide) ⟨trivial, trivial⟩, trivial⟩
  · -- section by section, and in each row by row
    rw [properAll_iff]
    intro m hm
    obtain ⟨⟨c, es⟩, -, rfl⟩ := List.mem_map.mp hm
    refine proper_division (by decide) ⟨proper_division (by decide) ⟨trivial, trivial⟩, ?_⟩
    rw [properAll_iff]
    intro row hrow
    obtain ⟨e, -, rfl⟩ := List.mem_map.mp hrow
    exact proper_row (Row.ofEntry e) query

/-! ## Highlighting

  Seen from outside, a highlighted label is the label: the marks add neither text nor a style class
  by which a row or a heading would be found. -/

/-- The text of the stretches, marked or not, is their characters. -/
theorem contentOfAll_pieces (ps : List Piece) :
    contentOfAll (ps.map Piece.markup) = ps.flatMap Piece.chars := by
  induction ps with
  | nil => rfl
  | cons p ps ih =>
    rw [List.map_cons, contentOfAll, List.flatMap_cons, ih]
    cases p <;> simp [Piece.markup, Piece.chars, contentOf, contentOfAll]

/-- A text with marks is the same text. -/
theorem contentOfAll_highlight (text query : String) :
    contentOfAll (highlight text query) = text.toList := by
  rw [highlight, contentOfAll_pieces, flatMap_chars_pieces]

/-- Marks have no style class. -/
theorem classedAll_highlight (style : List Char) (text query : String) :
    classedAll style (highlight text query) = [] := by
  have hmark : opensClass style (inside "mark" []) = false := rfl
  rw [classedAll_eq_flatMap, List.flatMap_eq_nil_iff]
  intro m hm
  obtain ⟨piece, -, rfl⟩ := List.mem_map.mp hm
  cases piece with
  | plain cs => rfl
  | marked cs => simp [Piece.markup, classed, classedAll, hmark]

/-! ## Rows and headings

  Rows and headings are found by their classes, and each lemma here says what a class finds in one
  template.  The class is a variable, so one computation serves for both: whatever is asked of a
  class is asked of the fixed tags, and is decided by looking at them. -/

/-- The text of a row: the letter, the label and the context. -/
def Row.text (r : Row) : String := r.category.badge ++ r.label ++ r.context

/-- Without its tags a row is its text, wherever the label was marked. -/
theorem contentOf_row (r : Row) (query : String) :
    contentOf (r.markup query) = r.text.toList := by
  simp [Row.markup, Row.labelMarkup, Row.division, contentOf, contentOfAll, contentOfAll_highlight,
    Row.text]

/-- The tag that opens a row. -/
def itemTag : List Char :=
  inside "div" [("class", "search-result-item"), ("role", "option"), ("aria-selected", "false")]

/-- A row is found by a class of its own tag, if that is not the class of anything inside of it. -/
theorem classed_row (style : List Char)
    (hinner : ∀ tag ∈ rowTags, opensClass style tag.toList = false) (r : Row) (query : String) :
    (classed style (r.markup query)).map contentOfAll =
      if opensClass style itemTag then [r.text.toList] else [] := by
  have hnone : ∀ tag ∈ rowTags.map String.toList, opensClass style tag = false := by
    intro tag htag
    obtain ⟨known, hknown, rfl⟩ := List.mem_map.mp htag
    exact hinner known hknown
  have hbadge := hnone _ (badge_mem_rowTags r)
  have hcontent : opensClass style (inside "div" [("class", "search-result-content")]) = false :=
    hnone _ (by decide)
  have hname : opensClass style (inside "div" [("class", "search-result-name")]) = false :=
    hnone _ (by decide)
  have hcontext : opensClass style (inside "div" [("class", "search-result-context")]) = false :=
    hnone _ (by decide)
  rw [← contentOf_row r query, Row.markup, classed, ← itemTag]
  simp only [Row.division, classed, classedAll, Row.labelMarkup, classedAll_highlight, hbadge, hcontent,
    hname, hcontext]
  split <;> rfl

/-- Rows one after another. -/
theorem classedAll_rows (style : List Char)
    (hinner : ∀ tag ∈ rowTags, opensClass style tag.toList = false) (es : List Entry)
    (query : String) :
    (classedAll style (es.map fun e => (Row.ofEntry e).markup query)).map contentOfAll =
      if opensClass style itemTag then es.map (fun e => (Row.ofEntry e).text.toList) else [] := by
  induction es with
  | nil => simp [classedAll]
  | cons e es ih =>
    rw [List.map_cons, classedAll, List.map_append, classed_row style hinner, ih]
    split <;> rfl

/-- The elements of a class in a section: the heading or the rows, as the class may be. -/
theorem classed_section (style : List Char)
    (houter : opensClass style (inside "div" [("class", "search-facet-section")]) = false)
    (hinner : ∀ tag ∈ rowTags, opensClass style tag.toList = false) (query : String)
    (s : Category × List Entry) :
    (classed style (sectionMarkup query s)).map contentOfAll =
      (if opensClass style (inside "div" [("class", "search-facet-header")]) then
        [s.1.heading.toList] else []) ++
      if opensClass style itemTag then s.2.map (fun e => (Row.ofEntry e).text.toList) else [] := by
  rw [← classedAll_rows style hinner s.2 query]
  simp only [sectionMarkup, Row.division, classed, classedAll, houter, Bool.false_eq_true, if_false,
    List.map_append]
  split <;> simp [contentOfAll, contentOf]

/-! ## Categories

  The dropdown goes by sections and the selection by a number.  Both come from the buckets, category
  by category in the order of display. -/

namespace Buckets

theorem length_flatten (b : Buckets) : b.flatten.length = b.total := by
  rw [flatten, total]
  induction Category.all with
  | nil => rfl
  | cons c cs ih => rw [List.flatMap_cons, List.length_append, ih, List.foldr_cons]

/-- Without results no category has any. -/
theorem get_eq_nil_of_isEmpty {b : Buckets} (h : b.isEmpty = true) {c : Category}
    (hc : c ∈ Category.all) : b.get c = [] := by
  have htotal : b.total = 0 := by simpa [isEmpty] using h
  have hflatten : b.flatten = [] := List.length_eq_zero_iff.mp (b.length_flatten.trans htotal)
  exact List.flatMap_eq_nil_iff.mp hflatten c hc

theorem sections_of_isEmpty {b : Buckets} (h : b.isEmpty = true) : b.sections = [] := by
  rw [sections, List.filter_eq_nil_iff]
  intro s hs
  obtain ⟨c, hc, rfl⟩ := List.mem_map.mp hs
  simp [get_eq_nil_of_isEmpty h hc]

/-- The sections, one after another, hold the results in the order in which they are walked
    through. -/
theorem flatMap_sections (b : Buckets) : b.sections.flatMap (·.2) = b.flatten := by
  rw [sections, flatten]
  induction Category.all with
  | nil => rfl
  | cons c cs ih =>
    rw [List.map_cons, List.filter_cons, List.flatMap_cons, ← ih]
    -- an empty bucket has no section, and nothing to hold
    cases hget : b.get c <;> simp

/-- The sections are those of the categories that have results. -/
theorem map_fst_sections (b : Buckets) :
    b.sections.map (·.1) = Category.all.filter fun c => !(b.get c).isEmpty := by
  rw [sections, List.filter_map, List.map_map]
  exact List.map_id _

end Buckets

/-- The elements of a class in the dropdown are those of its sections. -/
theorem classedAll_resultMarkup (style : List Char)
    (hnone : opensClass style (inside "div" [("class", "search-empty-state")]) = false)
    (b : Buckets) (query : String) :
    classedAll style (resultMarkup b query) =
      b.sections.flatMap fun s => classed style (sectionMarkup query s) := by
  rw [resultMarkup]
  split
  · rename_i hempty
    rw [Buckets.sections_of_isEmpty hempty]
    simp [Row.division, classedAll, classed, hnone]
  · rw [classedAll_eq_flatMap, List.flatMap_map]

/-! ## The main statement

  The reader and the dropdown are put side by side: the reader counts elements of a class in a
  text, the dropdown counts results. -/

/-- A row that the pointer is over is selected by its number, and Enter goes to its entry. -/
theorem enter_hovered {d : Dropdown} {k : Nat} {e : Entry} (hopen : d.panel.isOpen = true)
    (hrow : d.panel.results[k]? = some e) :
    (d.hover k).calls = [.select k] ∧
      (d.hover k).next.enter.calls = [.navigate (.ofEntry e), .hide, .clearInput] := by
  obtain ⟨hk, -⟩ := List.getElem?_eq_some_iff.mp hrow
  have hrows : d.panel.results.isEmpty = false :=
    List.isEmpty_eq_false_iff.mpr (List.ne_nil_of_length_pos (Nat.zero_lt_of_lt hk))
  have hhover : d.hover k = d.select k := by simp [Dropdown.hover, Panel.hasRows, hopen, hrows, hk]
  have hentry : (d.select k).next.panel.selectedEntry? = some e := hrow
  rw [hhover, Dropdown.enter, hentry]
  exact ⟨rfl, by simp [Dropdown.select, Dropdown.activate, hopen]⟩

/-- **What is on screen**: the tags of the dropdown are its own and properly nested, divisions, spans
    and marks.  There are as many rows as results; row `k` shows the letter, the label and the context
    of result `k`, as written, whatever these texts and the query hold.  The headings are those of the
    categories that have results, in their order.  Where the results are shown, row `k` is the row that
    the number `k` selects and that Enter then goes to. -/
theorem rows_on_screen (b : Buckets) (query : String) :
    let ps := parts (html (resultMarkup b query)).toList
    let items := elements "search-result-item".toList ps
    let headers := elements "search-facet-header".toList ps
    Nested IsDropdownTag ps ∧
      (∀ inside, IsDropdownTag inside →
        tagName inside ∈ ["div".toList, "span".toList, "mark".toList]) ∧
      items.length = b.total ∧
      items.map content = b.flatten.map (fun e => (Row.ofEntry e).text.toList) ∧
      headers.map content =
        (Category.all.filter fun c => !(b.get c).isEmpty).map (fun c => c.heading.toList) ∧
      ∀ (d : Dropdown) (k : Nat) (e : Entry), d.panel.isOpen = true → d.panel.results = b.flatten →
        b.flatten[k]? = some e →
        (d.hover k).calls = [.select k] ∧
          (d.hover k).next.enter.calls = [.navigate (.ofEntry e), .hide, .clearInput] := by
  intro ps items headers
  have hproper := properAll_resultMarkup b query
  have hitems : items.map content = b.flatten.map fun e => (Row.ofEntry e).text.toList := by
    rw [map_content_elements_html _ hproper, classedAll_resultMarkup _ (by decide),
      List.map_flatMap, ← b.flatMap_sections, List.map_flatMap]
    refine congrArg (List.flatMap · b.sections) (funext fun s => ?_)
    -- a section has rows of this class, and its heading is of another
    rw [classed_section _ (by decide) (by decide), if_neg (by decide), if_pos (by decide),
      List.nil_append]
  have hheaders : headers.map content =
      (Category.all.filter fun c => !(b.get c).isEmpty).map fun c => c.heading.toList := by
    rw [map_content_elements_html _ hproper, classedAll_resultMarkup _ (by decide),
      List.map_flatMap, ← b.map_fst_sections, List.map_map, List.map_eq_flatMap]
    refine congrArg (List.flatMap · b.sections) (funext fun s => ?_)
    -- and the other way round for the heading
    rw [classed_section _ (by decide) (by decide), if_pos (by decide), if_neg (by decide),
      List.append_nil]
    rfl
  refine ⟨nested_html hproper, ?_, ?_, hitems, hheaders, fun d k e hopen hresults hrow => ?_⟩
  · intro inside hinside
    obtain ⟨tag, htag, rfl⟩ := List.mem_map.mp hinside
    have hnames : ∀ tag ∈ dropdownTags, tagName tag.toList ∈
        ["div".toList, "span".toList, "mark".toList] := by decide
    exact hnames tag htag
  · rw [← b.length_flatten, ← List.length_map content, hitems, List.length_map]
  · exact enter_hovered hopen (hresults ▸ hrow)

end DocIndex
