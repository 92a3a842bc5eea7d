/-
  A LINKED EXPRESSION CAN BE READ BACK FROM ITS MARKUP.

  In markup the segments of a linked expression stand one after the other with nothing between them, and
  names, labels and targets are arbitrary texts that may look like markup themselves.  Two texts in a
  row, or an empty one, could not be told apart from one; linking makes neither.

  1. **The reader** (`Segment.ofParts`) — it sees the parts of the markup only: characters up to the next
     tag are a text, a tag opens a link if it has an address and something external otherwise.

  2. **One segment** (`ofParts_text`, `ofParts_element`) — with whatever follows it; a text must be
     followed by a tag or by nothing.

  3. **Main statement** (`html_reads_back`) — without its tags the markup is the plain text, the reader
     finds exactly the segments, and so equal markup comes from equal segments only.
-/
import DocIndex.Proofs.Markup.Reading
import DocIndex.Proofs.TypeExpr.Linking

namespace DocIndex

open Markup

/-! ## The reader

  It works on parts and never sees the tree.  What it cannot know is where a text ends that is
  followed by another; so it takes all characters up to a tag for one text. -/

/-- Is the part a character? -/
def Markup.Part.isChar : Part → Bool
  | .tag _ => false
  | .char _ => true

/-- The characters in front of the first tag. -/
def Markup.leading (ps : List Part) : List Char :=
  (ps.takeWhile Part.isChar).filterMap Part.char?

/-- The parts from the first tag on. -/
def Markup.fromTag (ps : List Part) : List Part := ps.dropWhile Part.isChar

namespace Segment

/-- The segment of an element: a link if its tag has an address, whose first character is `#`. -/
def ofTag (inside label : List Char) : Segment :=
  match attribute? "href".toList inside with
  | some address => .link (String.ofList ((decode address).drop 1)) (String.ofList label)
  | none => .external (String.ofList label)

/-- The segments that stand in some parts of markup. -/
def ofParts : List Part → List Segment
  | [] => []
  | .char c :: ps =>
    .text (String.ofList (decode (c :: leading ps))) :: ofParts (fromTag ps)
  | .tag inside :: ps => ofTag inside (decode (leading ps)) :: ofParts ((fromTag ps).drop 1)
termination_by ps => ps.length
decreasing_by
  · have hlength := (List.dropWhile_sublist Part.isChar (l := ps)).length_le
    simp only [fromTag, List.length_cons]
    omega
  · have hlength := (List.dropWhile_sublist Part.isChar (l := ps)).length_le
    simp only [fromTag, List.length_cons, List.length_drop]
    omega

/-! ## Characters up to a tag

  The two halves of what the reader does at characters, if what follows begins with a tag or is
  empty. -/

/-- Characters in front of a tag are read as they are. -/
theorem leading_append {ps : List Part} (h : ps.takeWhile Part.isChar = []) (cs : List Char) :
    leading (cs.map .char ++ ps) = cs := by
  have hchars : ∀ p ∈ cs.map Part.char, p.isChar = true := List.forall_mem_map.mpr fun _ _ => rfl
  rw [leading, List.takeWhile_append_of_pos hchars, h, List.append_nil, List.filterMap_map]
  exact List.filterMap_some

/-- And the reader goes on with the tag. -/
theorem fromTag_append {ps : List Part} (h : ps.takeWhile Part.isChar = []) (cs : List Char) :
    fromTag (cs.map .char ++ ps) = ps := by
  have hchars : ∀ p ∈ cs.map Part.char, p.isChar = true := List.forall_mem_map.mpr fun _ _ => rfl
  have hrest := List.takeWhile_append_dropWhile (p := Part.isChar) (l := ps)
  rw [h, List.nil_append] at hrest
  rw [fromTag, List.dropWhile_append_of_pos hchars, hrest]

/-! ## One segment

  What is read from the markup of one segment, with all that comes behind it still to be read. -/

/-- A text is read up to the next tag. -/
theorem ofParts_text {content : String} (nonempty : content ≠ "") {ps : List Part}
    (h : ps.takeWhile Part.isChar = []) :
    ofParts (partsOf (.text content) ++ ps) = .text content :: ofParts ps := by
  have hdecode := decode_escapeChars content.toList
  rw [partsOf]
  cases hchars : escapeChars content.toList with
  -- only the empty text is written as nothing
  | nil =>
    rw [hchars] at hdecode
    exact absurd (String.toList_eq_nil_iff.mp hdecode.symm) nonempty
  | cons c cs =>
    rw [List.map_cons, List.cons_append, ofParts, leading_append h, fromTag_append h, ← hchars,
      hdecode, String.ofList_toList]

/-- An element with a label is read up to the tag that closes it. -/
theorem ofParts_element (tag : String) (attributes : List (String × String)) (label : String)
    (ps : List Part) :
    ofParts (partsOf (.element tag attributes [.text label]) ++ ps) =
      ofTag (inside tag attributes) label.toList :: ofParts ps := by
  have hclosing : (Part.tag ('/' :: tag.toList) :: ps).takeWhile Part.isChar = [] := rfl
  have hparts : partsOf (.element tag attributes [.text label]) ++ ps =
      .tag (inside tag attributes) ::
        ((escapeChars label.toList).map .char ++ .tag ('/' :: tag.toList) :: ps) := by
    simp [partsOf, partsOfAll]
  rw [hparts, ofParts, leading_append hclosing, fromTag_append hclosing, decode_escapeChars]
  rfl

/-- No quote in the address can end it: it is escaped. -/
theorem takeWhile_address (value : String) :
    (escapeChars value.toList ++ ['"']).takeWhile (· ≠ '"') = escapeChars value.toList := by
  have hquote : ∀ c ∈ escapeChars value.toList, decide (c ≠ '"') = true := by
    intro c hc
    refine decide_eq_true fun h => ?_
    exact not_mem_escapeChars (by decide) (by decide) value.toList (h ▸ hc)
  rw [List.takeWhile_append_of_pos hquote]
  exact List.append_nil _

/-- The tag of a link is read as the link: the address is the second attribute, and it begins with
    `#`. -/
theorem ofTag_link (target label : String) :
    ofTag (inside "a" [("class", "type-link"), ("href", "#" ++ target)]) label.toList =
      .link target label := by
  have hinside : inside "a" [("class", "type-link"), ("href", "#" ++ target)] =
      "a class=\"type-link\"".toList ++
        (" href=\"".toList ++ (escapeChars ("#" ++ target).toList ++ ['"'])) := by
    simp [inside, renderAttribute, escapeChars, escapeChar]
  -- the walk to the address goes through fixed characters only
  have haddress : attribute? "href".toList
      (inside "a" [("class", "type-link"), ("href", "#" ++ target)]) =
        some ((escapeChars ("#" ++ target).toList ++ ['"']).takeWhile (· ≠ '"')) := by
    rw [hinside]
    rfl
  have htarget : ("#" ++ target).toList.drop 1 = target.toList := by
    rw [String.toList_append]
    rfl
  rw [ofTag, haddress, takeWhile_address]
  show Segment.link (String.ofList ((decode (escapeChars _)).drop 1)) _ = _
  rw [decode_escapeChars, htarget, String.ofList_toList, String.ofList_toList]

/-- A tag without an address is something external. -/
theorem ofTag_external (label : String) :
    ofTag (inside "span" [("class", "type-external")]) label.toList = .external label := by
  have haddress : attribute? "href".toList (inside "span" [("class", "type-external")]) = none := by
    decide
  rw [ofTag, haddress, String.ofList_toList]

/-! ## All segments

  By induction on the segments, from the front as the reader goes. -/

/-- The names in the markup of segments are names, whatever the segments hold. -/
theorem properAll_markup (segments : List Segment) :
    ProperAll (fun _ => True) (segments.map markup) := by
  rw [properAll_iff]
  intro m hm
  obtain ⟨segment, -, rfl⟩ := List.mem_map.mp hm
  cases segment with
  | text content => trivial
  | link target label =>
    refine ⟨by decide, ?_, trivial, trivial, trivial⟩
    intro a ha
    rcases List.mem_cons.mp ha with rfl | ha
    · show isName "class" = true
      decide
    · rw [List.mem_singleton.mp ha]
      show isName "href" = true
      decide
  | external label => exact ⟨by decide, by decide, trivial, trivial, trivial⟩

/-- Without tags, what is left is what the reader sees. -/
theorem contentOfAll_markup (segments : List Segment) :
    contentOfAll (segments.map markup) = (plain segments).toList := by
  induction segments with
  | nil => rfl
  | cons segment segments ih =>
    have hone : contentOf segment.markup = segment.shown.toList := by
      cases segment <;> simp [markup, contentOf, contentOfAll, shown]
    rw [List.map_cons, contentOfAll, hone, ih, plain, plain, List.map_cons, String.join_cons,
      String.toList_append]

/-- **The crux**: segments without empty texts and without two texts in a row are read back. -/
theorem ofParts_markup {segments : List Segment} (nonempty : .text "" ∉ segments)
    (apart : ∀ (i : Nat) (first second : String), segments[i]? = some (.text first) →
      segments[i + 1]? ≠ some (.text second)) :
    ofParts (partsOfAll (segments.map markup)) = segments := by
  induction segments with
  | nil => rw [List.map_nil, partsOfAll, ofParts]
  | cons segment segments ih =>
    have hrest := ih (fun hmem => nonempty (List.mem_cons_of_mem _ hmem)) fun i => apart (i + 1)
    rw [List.map_cons, partsOfAll]
    cases segment with
    | text content =>
      have hcontent : content ≠ "" := by
        rintro rfl
        exact nonempty List.mem_cons_self
      -- a text would be followed by a text if no tag came next
      have htag : (partsOfAll (segments.map markup)).takeWhile Part.isChar = [] := by
        cases segments with
        | nil => rfl
        | cons next segments =>
          cases next with
          | text second => exact absurd rfl (apart 0 content second rfl)
          | link target label => rfl
          | external label => rfl
      rw [markup, ofParts_text hcontent htag, hrest]
    | link target label => rw [markup, ofParts_element, ofTag_link, hrest]
    | external label => rw [markup, ofParts_element, ofTag_external, hrest]

end Segment

namespace Catalog

/-- **A linked expression can be read back from its markup.**  Whatever records were added to a catalog,
    and whatever the expression:

    * its markup without the tags, with the entities decoded, is its plain text;
    * the segments that a reader finds in the markup are its segments, with their kinds, texts, labels
      and targets;
    * an expression with the same markup, in this or in another catalog, has the same segments. -/
theorem html_reads_back (rs : List Record) (expr : String) :
    content (parts (Segment.html ((ofList rs).link expr)).toList) =
      (Segment.plain ((ofList rs).link expr)).toList ∧
    Segment.ofParts (parts (Segment.html ((ofList rs).link expr)).toList) = (ofList rs).link expr ∧
    ∀ (rs' : List Record) (expr' : String),
      Segment.html ((ofList rs).link expr) = Segment.html ((ofList rs').link expr') →
      (ofList rs).link expr = (ofList rs').link expr' := by
  have hreads : ∀ (rs : List Record) (expr : String),
      Segment.ofParts (parts (Segment.html ((ofList rs).link expr)).toList) =
        (ofList rs).link expr := by
    intro rs expr
    -- linking makes no empty text and no two texts in a row
    have hshows : (ofList rs).Shows (Token.tokens expr) ((ofList rs).link expr) :=
      shows_linkTokens rs _
    rw [Segment.html, parts_html (Segment.properAll_markup _)]
    exact Segment.ofParts_markup (hshows.text_ne_empty (Token.reads_tokens expr).wellFormed)
      hshows.texts_apart
  refine ⟨?_, hreads rs expr, fun rs' expr' heq => ?_⟩
  · rw [Segment.html, content_html (Segment.properAll_markup _), Segment.contentOfAll_markup]
  · rw [← hreads rs expr, heq, hreads rs' expr']

end Catalog
end DocIndex
