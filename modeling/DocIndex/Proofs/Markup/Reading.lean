/-
  READING MARKUP BACK.

  Markup is rendered to plain text, and whoever receives the text sees no tree any more: a tag is what
  stands between `<` and the next `>`, and everything else is characters, five of which stand as
  entities.  What a reader finds in the text is defined here without the tree, and then shown to be
  what the tree holds.

  1. **The reader** — `parts` cuts a text into tags and characters, `Nested` says that the tags close in
     the order in which they were opened, `elements` finds the elements of a style class by counting
     tags, and `content` is what is left without the tags, with the entities decoded.

  2. **Escaping** (`decode_escapeChars_append`) — an escaped text decodes to itself whatever follows it,
     and holds no character that could open a tag or close one.

  3. **The crux** (`scan_render`) — one induction over the tree: the parts of the rendered text are the
     parts of the tree.  Nesting, elements and content are then read off the tree.
-/
import DocIndex.Markup
import DocIndex.Text.Fold

namespace DocIndex.Markup

/-! ## The reader

  It is meant to be as plain as a reader can be, and it knows nothing of what is written: a name, a
  class or an entity is whatever looks like one.  It makes sense of any text, also of one in which
  tags are left open. -/

/-- A piece of a text: a tag, with what stands between `<` and `>`, or a character outside of tags. -/
inductive Part where
  | tag (inside : List Char)
  | char (c : Char)
  deriving Repr, DecidableEq

/-- Cuts a text into its parts.  Inside a tag, `some inside` is what was read of it so far; where no
    `>` follows there is no tag. -/
def scan : Option (List Char) → List Char → List Part
  | none, [] => []
  | some inside, [] => .char '<' :: inside.map .char
  | none, c :: cs => if c = '<' then scan (some []) cs else .char c :: scan none cs
  | some inside, c :: cs =>
    if c = '>' then .tag inside :: scan none cs else scan (some (inside ++ [c])) cs

/-- The parts of a text. -/
def parts (text : List Char) : List Part := scan none text

/-- Is it the tag that closes an element? -/
def isClosing (inside : List Char) : Bool := inside.head? = some '/'

/-- The name of the element that a tag opens. -/
def tagName (inside : List Char) : List Char := inside.takeWhile (· ≠ ' ')

/-- The tags are properly nested, and all that open an element are among the known ones. -/
inductive Nested (known : List Char → Prop) : List Part → Prop where
  | nil : Nested known []
  | char {c : Char} {ps : List Part} (rest : Nested known ps) : Nested known (.char c :: ps)
  | element {inside : List Char} {inner outer : List Part} (recognised : known inside)
      (opening : isClosing inside = false) (within : Nested known inner)
      (rest : Nested known outer) :
      Nested known (.tag inside :: (inner ++ .tag ('/' :: tagName inside) :: outer))

/-- The value of an attribute: what stands in quotes behind its name.  No value holds a quote. -/
def attribute? (name : List Char) : List Char → Option (List Char)
  | [] => none
  | c :: cs =>
    if (' ' :: name ++ ['=', '"']).isPrefixOf (c :: cs) then
      some ((cs.drop (name.length + 2)).takeWhile (· ≠ '"'))
    else attribute? name cs

/-- Does the tag open an element of the style class?  An element may have several classes, with blanks
    between them. -/
def opensClass (style inside : List Char) : Bool :=
  !isClosing inside && (attribute? "class".toList inside).any fun value =>
    Text.occursIn (' ' :: style ++ [' ']) (' ' :: value ++ [' '])

/-- What stands before the tag that closes the element around it; `depth` elements have been opened
    in between. -/
def body : Nat → List Part → List Part
  | _, [] => []
  | depth, .char c :: ps => .char c :: body depth ps
  | depth, .tag inside :: ps =>
    if isClosing inside then
      match depth with
      | 0 => []
      | depth + 1 => .tag inside :: body depth ps
    else .tag inside :: body (depth + 1) ps

/-- The elements of a style class, in the order in which they are opened, each with what is in it. -/
def elements (style : List Char) : List Part → List (List Part)
  | [] => []
  | .char _ :: ps => elements style ps
  | .tag inside :: ps =>
    if opensClass style inside then body 0 ps :: elements style ps else elements style ps

/-- The five entities decoded, from left to right. -/
def decode : List Char → List Char
  | '&' :: 'a' :: 'm' :: 'p' :: ';' :: cs => '&' :: decode cs
  | '&' :: 'l' :: 't' :: ';' :: cs => '<' :: decode cs
  | '&' :: 'g' :: 't' :: ';' :: cs => '>' :: decode cs
  | '&' :: 'q' :: 'u' :: 'o' :: 't' :: ';' :: cs => '"' :: decode cs
  | '&' :: '#' :: '3' :: '9' :: ';' :: cs => '\x27' :: decode cs
  | c :: cs => c :: decode cs
  | [] => []

/-- The character, if the part is one. -/
def Part.char? : Part → Option Char
  | .tag _ => none
  | .char c => some c

/-- The text of some parts: the tags removed, the entities decoded. -/
def content (ps : List Part) : List Char := decode (ps.filterMap Part.char?)

/-! ## Escaping

  An `&` in the text is escaped too, so no entity is ever read that was not written.  Each of the
  five cases is a computation; what follows the entity is never looked at. -/

/-- Only an `&` can begin an entity; any other character is handed on. -/
theorem decode_cons {c : Char} (h : c ≠ '&') (cs : List Char) : decode (c :: cs) = c :: decode cs := by
  rw [decode.eq_def]
  split <;> simp_all

/-- An escaped character decodes to itself, whatever follows. -/
theorem decode_escapeChar_append (c : Char) (rest : List Char) :
    decode (escapeChar c ++ rest) = c :: decode rest := by
  rw [escapeChar]
  split
  · rename_i h; subst h; rfl
  split
  · rename_i h; subst h; rfl
  split
  · rename_i h; subst h; rfl
  split
  · rename_i h; subst h; rfl
  split
  · rename_i h; subst h; rfl
  · rename_i h _ _ _ _
    exact decode_cons h rest

/-- An escaped text decodes to itself, whatever follows. -/
theorem decode_escapeChars_append (cs rest : List Char) :
    decode (escapeChars cs ++ rest) = cs ++ decode rest := by
  induction cs with
  | nil => rfl
  | cons c cs ih =>
    rw [escapeChars, List.flatMap_cons, List.append_assoc, decode_escapeChar_append]
    exact congrArg (c :: ·) ih

/-- An escaped text decodes to itself.  So two different texts are never written alike. -/
theorem decode_escapeChars (cs : List Char) : decode (escapeChars cs) = cs := by
  have h := decode_escapeChars_append cs []
  rw [List.append_nil] at h
  exact h.trans (List.append_nil cs)

/-- Of the reserved characters an escaped one holds none but the one that begins an entity. -/
theorem mem_escapeChar {x c : Char} (h : x ∈ escapeChar c) : isReserved x = false ∨ x = '&' := by
  -- each entity is a short text that can be looked through
  have hentity : ∀ entity : List Char, (entity.all fun y => !isReserved y || y == '&') = true →
      x ∈ entity → isReserved x = false ∨ x = '&' := by
    intro entity hall hx
    simpa using List.all_eq_true.mp hall x hx
  rw [escapeChar] at h
  split at h
  · exact hentity _ (by decide) h
  split at h
  · exact hentity _ (by decide) h
  split at h
  · exact hentity _ (by decide) h
  split at h
  · exact hentity _ (by decide) h
  split at h
  · exact hentity _ (by decide) h
  · -- a character that is none of the five stands for itself
    obtain rfl : x = c := List.mem_singleton.mp h
    exact .inl (by simp [isReserved, *])

/-- The other four reserved characters never stand in an escaped text.  With `<` that keeps a text
    from opening a tag, with `>` a value from ending one. -/
theorem not_mem_escapeChars {x : Char} (reserved : isReserved x = true) (hx : x ≠ '&')
    (cs : List Char) : x ∉ escapeChars cs := by
  intro hmem
  obtain ⟨c, -, hc⟩ := List.mem_flatMap.mp hmem
  rcases mem_escapeChar hc with hfree | hamp
  · rw [reserved] at hfree
    cases hfree
  · exact hx hamp

/-- A text without reserved characters is written as it is. -/
theorem escapeChars_eq_self {cs : List Char} (h : ∀ c ∈ cs, isReserved c = false) :
    escapeChars cs = cs := by
  induction cs with
  | nil => rfl
  | cons c cs ih =>
    have hc := h c List.mem_cons_self
    have hself : escapeChar c = [c] := by
      simp only [isReserved, Bool.or_eq_false_iff, decide_eq_false_iff_not] at hc
      simp [escapeChar, hc]
    rw [escapeChars, List.flatMap_cons, hself]
    exact congrArg (c :: ·) (ih fun d hd => h d (List.mem_cons_of_mem c hd))

/-- That a text without reserved characters is handed on as it is changes nothing. -/
theorem toList_written_escape (s : String) : (escape s).written.toList = escapeChars s.toList := by
  unfold escape
  split
  · exact String.toList_ofList
  · -- the short way: nothing is there to be escaped
    rename_i hnone
    refine (escapeChars_eq_self fun c hc => ?_).symm
    refine Bool.eq_false_iff.mpr fun hreserved => hnone ?_
    exact List.any_eq_true.mpr ⟨c, hc, hreserved⟩

theorem escapeChars_append (cs ds : List Char) :
    escapeChars (cs ++ ds) = escapeChars cs ++ escapeChars ds := List.flatMap_append

/-! ## Text and tags

  What the reader does on each thing that can be written: characters, a tag, an element as a whole.
  `body` counts elements, and a piece in which all are closed leaves its count alone. -/

/-- Characters without `<` are read one by one. -/
theorem scan_chars {cs : List Char} (h : '<' ∉ cs) (rest : List Char) :
    scan none (cs ++ rest) = cs.map .char ++ scan none rest := by
  induction cs with
  | nil => rfl
  | cons c cs ih =>
    have hc : c ≠ '<' := fun hc => h (hc ▸ List.mem_cons_self)
    rw [List.cons_append, scan, if_neg hc, ih fun hmem => h (List.mem_cons_of_mem c hmem)]
    rfl

/-- A tag is read up to the next `>`. -/
theorem scan_inside {cs : List Char} (h : '>' ∉ cs) (inside rest : List Char) :
    scan (some inside) (cs ++ '>' :: rest) = .tag (inside ++ cs) :: scan none rest := by
  induction cs generalizing inside with
  | nil => simp [scan]
  | cons c cs ih =>
    have hc : c ≠ '>' := fun hc => h (hc ▸ List.mem_cons_self)
    rw [List.cons_append, scan, if_neg hc, ih fun hmem => h (List.mem_cons_of_mem c hmem),
      List.append_assoc]
    rfl

/-- A whole tag, from its `<` on.  Tags are opened and closed alike here: the reader does not tell
    them apart before it looks inside. -/
theorem scan_tag {inside : List Char} (h : '>' ∉ inside) (rest : List Char) :
    scan none ('<' :: inside ++ '>' :: rest) = .tag inside :: scan none rest :=
  scan_inside h [] rest

/-- A tag that opens an element inside: one more has to be closed before the end. -/
theorem body_opening {inside : List Char} (h : isClosing inside = false) (depth : Nat)
    (ps : List Part) : body depth (.tag inside :: ps) = .tag inside :: body (depth + 1) ps := by
  cases depth <;> simp [body, h]

/-- A tag that closes an element inside. -/
theorem body_closing (name : List Char) (depth : Nat) (ps : List Part) :
    body (depth + 1) (.tag ('/' :: name) :: ps) = .tag ('/' :: name) :: body depth ps := by
  simp [body, isClosing]

/-- The tag that closes the element itself. -/
theorem body_closed (name : List Char) (ps : List Part) : body 0 (.tag ('/' :: name) :: ps) = [] := by
  simp [body, isClosing]

/-- Elements that were opened and closed cannot close the one around them. -/
theorem body_append {known : List Char → Prop} {ps : List Part} (h : Nested known ps) (depth : Nat)
    (rest : List Part) : body depth (ps ++ rest) = ps ++ body depth rest := by
  induction h generalizing depth rest with
  | nil => rfl
  | char nested ih =>
    rw [List.cons_append, body, ih]
    rfl
  -- the count goes up at the opening tag and comes down again at the closing one
  | element recognised opening within after ihinner ihouter =>
    rw [List.cons_append, List.append_assoc, body_opening opening, ihinner, List.cons_append,
      body_closing, ihouter]
    simp

/-- Two properly nested pieces may stand side by side. -/
theorem Nested.append {known : List Char → Prop} {ps qs : List Part} (hp : Nested known ps)
    (hq : Nested known qs) : Nested known (ps ++ qs) := by
  induction hp with
  | nil => exact hq
  | char nested ih => exact .char ih
  | element recognised opening within rest ihinner ihouter =>
    rw [List.cons_append, List.append_assoc]
    exact .element recognised opening within ihouter

/-! ## The tree

  The same four notions once more, on the tree, where they need no search: its parts, that it is
  proper, its text, and its elements of a class. -/

/-- What stands between `<` and `>` in the tag that opens an element. -/
def inside (tag : String) (attributes : List (String × String)) : List Char :=
  tag.toList ++ attributes.flatMap renderAttribute

/-- Letters and hyphens, as in the names of elements and attributes. -/
def isName (s : String) : Bool := s.toList.all fun c => c.isAlpha || c = '-'

mutual

/-- The parts that an element or a text should be read as. -/
def partsOf : Markup → List Part
  | .text content => (escapeChars content.toList).map .char
  | .element tag attributes children =>
    .tag (inside tag attributes) :: (partsOfAll children ++ [.tag ('/' :: tag.toList)])

/-- The same for the children of an element, in their order. -/
def partsOfAll : List Markup → List Part
  | [] => []
  | m :: ms => partsOf m ++ partsOfAll ms

end

mutual

/-- All names are names, and all tags that open an element are known.  Of texts and of the values of
    attributes nothing is asked. -/
def Proper (known : List Char → Prop) : Markup → Prop
  | .text _ => True
  | .element tag attributes children =>
    isName tag = true ∧ (∀ a ∈ attributes, isName a.1 = true) ∧ known (inside tag attributes) ∧
      ProperAll known children

/-- The same for the children of an element. -/
def ProperAll (known : List Char → Prop) : List Markup → Prop
  | [] => True
  | m :: ms => Proper known m ∧ ProperAll known ms

end

mutual

/-- The text of an element, without any tags. -/
def contentOf : Markup → List Char
  | .text content => content.toList
  | .element _ _ children => contentOfAll children

/-- The same for the children of an element, in their order. -/
def contentOfAll : List Markup → List Char
  | [] => []
  | m :: ms => contentOf m ++ contentOfAll ms

end

mutual

/-- The children of the elements of a style class, in the order in which the elements are opened. -/
def classed (style : List Char) : Markup → List (List Markup)
  | .text _ => []
  | .element tag attributes children =>
    (if opensClass style (inside tag attributes) then [children] else []) ++
      classedAll style children

/-- The same for the children of an element, in their order. -/
def classedAll (style : List Char) : List Markup → List (List Markup)
  | [] => []
  | m :: ms => classed style m ++ classedAll style ms

end

/-! ### Names

  A tag is cut at blanks, at `/` and at `>`.  That names are letters and hyphens keeps these three
  out of them; the values of attributes are escaped instead. -/

/-- A name holds neither blanks, slashes, quotes nor brackets, so it ends where what follows it
    begins. -/
theorem not_mem_of_isName {s : String} (h : isName s = true) {x : Char} (hx : x.isAlpha = false)
    (hx' : x ≠ '-') : x ∉ s.toList := by
  intro hmem
  have hletter := List.all_eq_true.mp h x hmem
  simp [hx, hx'] at hletter

/-- A tag with proper names does not end before its end. -/
theorem not_mem_inside {tag : String} {attributes : List (String × String)}
    (htag : isName tag = true) (hattributes : ∀ a ∈ attributes, isName a.1 = true) :
    '>' ∉ inside tag attributes := by
  intro hmem
  rcases List.mem_append.mp hmem with hmem | hmem
  · exact not_mem_of_isName htag (by decide) (by decide) hmem
  · obtain ⟨⟨name, value⟩, ha, hmem⟩ := List.mem_flatMap.mp hmem
    have hname : '>' ∉ name.toList :=
      not_mem_of_isName (hattributes _ ha) (by decide) (by decide)
    have hvalue : '>' ∉ escapeChars value.toList := not_mem_escapeChars (by decide) (by decide) _
    -- a blank, the name, `=`, and the value between quotes
    simp [renderAttribute, hname, hvalue] at hmem

/-- A tag with a proper name opens an element of that name. -/
theorem tagName_inside {tag : String} (htag : isName tag = true)
    (attributes : List (String × String)) : tagName (inside tag attributes) = tag.toList := by
  have hblank : ∀ c ∈ tag.toList, (decide (c ≠ ' ')) = true := by
    intro c hc
    refine decide_eq_true fun h => ?_
    exact not_mem_of_isName htag (by decide) (by decide) (h ▸ hc)
  -- attributes begin with a blank, and that ends the name
  have hstop : (attributes.flatMap renderAttribute).takeWhile (· ≠ ' ') = [] := by
    cases attributes <;> rfl
  rw [tagName, inside, List.takeWhile_append_of_pos hblank, hstop, List.append_nil]

/-- No name begins with a slash, so a tag that opens an element does not look as if it closed one. -/
theorem isClosing_inside {tag : String} (htag : isName tag = true)
    (attributes : List (String × String)) : isClosing (inside tag attributes) = false := by
  rw [isClosing, inside]
  cases htoList : tag.toList with
  -- even without a name the tag would begin with the blank of an attribute
  | nil => cases attributes <;> rfl
  | cons c cs =>
    have hc : c ≠ '/' := by
      rintro rfl
      exact not_mem_of_isName htag (by decide) (by decide) (htoList ▸ List.mem_cons_self)
    simp [hc]

/-! ### The text of a tree is read as the tree

  Each statement is proved by one induction over the tree, together with the same statement for
  lists of trees, and each speaks of the tree followed by something else: the reader walks on into
  what comes next, and the induction has to say what it finds there. -/

variable {known : List Char → Prop} (style : List Char)

mutual

/-- **The crux**: what is rendered is read as the parts of the tree, whatever follows. -/
theorem scan_render (m : Markup) (h : Proper known m) (rest : List Char) :
    scan none (render m ++ rest) = partsOf m ++ scan none rest := by
  cases m with
  | text content =>
    rw [render, partsOf]
    exact scan_chars (not_mem_escapeChars (by decide) (by decide) _) rest
  | element tag attributes children =>
    obtain ⟨htag, hattributes, -, hchildren⟩ := h
    -- the closing tag holds the name only, and so it is one tag as well
    have hclosing : '>' ∉ '/' :: tag.toList := by
      simpa using not_mem_of_isName htag (x := '>') (by decide) (by decide)
    have hopen := scan_tag (not_mem_inside htag hattributes)
      (renderAll children ++ (closeTag tag ++ rest))
    have hclose := scan_tag hclosing rest
    have hrender : render (.element tag attributes children) ++ rest =
        '<' :: inside tag attributes ++ '>' :: (renderAll children ++ (closeTag tag ++ rest)) := by
      simp [render, openTag, inside]
    have hend : closeTag tag ++ rest = '<' :: ('/' :: tag.toList) ++ '>' :: rest := by
      simp [closeTag]
    -- the opening tag, the children by induction, the closing tag
    rw [hrender, hopen, scan_renderAll children hchildren, hend, hclose, partsOf]
    simp

theorem scan_renderAll (ms : List Markup) (h : ProperAll known ms) (rest : List Char) :
    scan none (renderAll ms ++ rest) = partsOfAll ms ++ scan none rest := by
  cases ms with
  | nil => rfl
  | cons m ms =>
    rw [renderAll, partsOfAll, List.append_assoc, List.append_assoc, scan_render m h.1,
      scan_renderAll ms h.2]

end

mutual

/-- The parts of a tree are properly nested, and all tags that open an element in them are known.
    What the tree says by its shape the parts say by the names in the closing tags. -/
theorem nested_partsOf (m : Markup) (h : Proper known m) : Nested known (partsOf m) := by
  cases m with
  | text content =>
    rw [partsOf]
    induction escapeChars content.toList with
    | nil => exact .nil
    | cons c cs ih => exact .char ih
  | element tag attributes children =>
    obtain ⟨htag, -, hknown, hchildren⟩ := h
    rw [partsOf, ← tagName_inside htag attributes]
    exact .element hknown (isClosing_inside htag attributes) (nested_partsOfAll children hchildren)
      .nil

theorem nested_partsOfAll (ms : List Markup) (h : ProperAll known ms) :
    Nested known (partsOfAll ms) := by
  cases ms with
  | nil => exact .nil
  | cons m ms =>
    rw [partsOfAll]
    exact (nested_partsOf m h.1).append (nested_partsOfAll ms h.2)

end

mutual

/-- The text of a tree, followed by other parts. -/
theorem content_partsOf (m : Markup) (rest : List Part) :
    content (partsOf m ++ rest) = contentOf m ++ content rest := by
  cases m with
  | text text =>
    rw [content, partsOf, contentOf, List.filterMap_append, List.filterMap_map]
    rw [show Part.char? ∘ Part.char = some from rfl, List.filterMap_some]
    exact decode_escapeChars_append _ _
  | element tag attributes children =>
    -- tags are not part of the text
    rw [partsOf, contentOf, List.cons_append, List.append_assoc]
    exact content_partsOfAll children _

theorem content_partsOfAll (ms : List Markup) (rest : List Part) :
    content (partsOfAll ms ++ rest) = contentOfAll ms ++ content rest := by
  cases ms with
  | nil => rfl
  | cons m ms =>
    rw [partsOfAll, contentOfAll, List.append_assoc, List.append_assoc, content_partsOf m,
      content_partsOfAll ms]

end

mutual

/-- The elements of a style class in a tree, followed by other parts. -/
theorem elements_partsOf (m : Markup) (h : Proper known m) (rest : List Part) :
    elements style (partsOf m ++ rest) =
      (classed style m).map partsOfAll ++ elements style rest := by
  cases m with
  | text text =>
    rw [partsOf, classed]
    induction escapeChars text.toList with
    | nil => rfl
    | cons c cs ih => exact ih
  | element tag attributes children =>
    obtain ⟨htag, -, -, hchildren⟩ := h
    -- what is in the element is all up to its own closing tag
    have hbody : body 0 (partsOfAll children ++ .tag ('/' :: tag.toList) :: rest) =
        partsOfAll children := by
      rw [body_append (nested_partsOfAll children hchildren), body_closed, List.append_nil]
    have hclosing : elements style (.tag ('/' :: tag.toList) :: rest) = elements style rest := by
      simp [elements, opensClass, isClosing]
    rw [partsOf, List.cons_append, List.append_assoc, List.singleton_append, elements, hbody,
      elements_partsOfAll children hchildren, hclosing, classed]
    split <;> simp

theorem elements_partsOfAll (ms : List Markup) (h : ProperAll known ms) (rest : List Part) :
    elements style (partsOfAll ms ++ rest) =
      (classedAll style ms).map partsOfAll ++ elements style rest := by
  cases ms with
  | nil => rfl
  | cons m ms =>
    rw [partsOfAll, classedAll, List.append_assoc, elements_partsOf m h.1,
      elements_partsOfAll ms h.2, List.map_append, List.append_assoc]

end

/-! ### The rendered text as a whole

  With nothing behind it. -/

/-- **Rendered markup is read as the parts of the tree.** From here on the text is not looked at
    any more. -/
theorem parts_html {ms : List Markup} (h : ProperAll known ms) :
    parts (html ms).toList = partsOfAll ms := by
  have hscan := scan_renderAll ms h []
  rw [List.append_nil] at hscan
  rw [parts, html, String.toList_ofList, hscan]
  exact List.append_nil _

/-- The tags of rendered markup are properly nested. -/
theorem nested_html {ms : List Markup} (h : ProperAll known ms) :
    Nested known (parts (html ms).toList) := by
  rw [parts_html h]
  exact nested_partsOfAll ms h

theorem content_tree (ms : List Markup) : content (partsOfAll ms) = contentOfAll ms := by
  have hcontent := content_partsOfAll ms []
  rw [List.append_nil] at hcontent
  exact hcontent.trans (List.append_nil _)

/-- What is left of rendered markup without its tags is the text of the tree. -/
theorem content_html {ms : List Markup} (h : ProperAll known ms) :
    content (parts (html ms).toList) = contentOfAll ms := by
  rw [parts_html h, content_tree]

/-- The texts of the elements of a style class are those of the tree. -/
theorem map_content_elements_html {ms : List Markup} (h : ProperAll known ms) :
    (elements style (parts (html ms).toList)).map content =
      (classedAll style ms).map contentOfAll := by
  have helements := elements_partsOfAll style ms h []
  rw [List.append_nil] at helements
  rw [parts_html h, helements, show elements style [] = [] from rfl, List.append_nil, List.map_map]
  exact List.map_congr_left fun children _ => content_tree children

/-! ### Lists of elements

  Most markup is a list that a program has put together, and is looked at element by element. -/

theorem properAll_iff {ms : List Markup} : ProperAll known ms ↔ ∀ m ∈ ms, Proper known m := by
  induction ms with
  | nil => simp [ProperAll]
  | cons m ms ih => simp [ProperAll, ih]

theorem classedAll_eq_flatMap (ms : List Markup) :
    classedAll style ms = ms.flatMap (classed style) := by
  induction ms with
  | nil => rfl
  | cons m ms ih => rw [classedAll, List.flatMap_cons, ih]

end DocIndex.Markup
