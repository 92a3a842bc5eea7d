/-
  LINKS LEAD TO WHAT THE IDENTIFIERS MEAN.

  Linking walks through the tokens from the back: an identifier is looked up, and every other token
  puts its text in front of the text that already stands there.

  1. **Specification** — `Catalog.Means` says what one identifier means: the record of that qualified
     name, else the first record of that simple name, else nothing in the catalog.  `Catalog.Shows`
     says how a list of tokens is laid out: one segment for every identifier, and one text for every
     run of other tokens that is as long as it can be.

  2. **One identifier** (`means_linkIdentifier`) — from what look-ups in a catalog find.

  3. **All of them** (`shows_linkTokens`) — by induction on the tokens.  A text put in front either
     begins a run or makes a run longer, and which of the two is seen from the layout of the rest.

  4. **Main statement** (`link_shows_meanings`) — the layout, and what follows from it: texts are
     neither empty nor next to each other, links lead to records, and no keyword is looked up.

  The catalog is any that can be built from records, in any order and with any names.  That two
  records may bear one simple name is why the second case of `Means` speaks of the first of them.
-/
import DocIndex.Proofs.Catalog.Lookup
import DocIndex.Proofs.TypeExpr.Tokens
import DocIndex.TypeExpr.Link

namespace DocIndex

/-! ## The last part of a name

  An unknown name is shown without its package.  The last part is characterised by what it is, a
  part without a dot that is all of the name or stands behind a dot. -/

/-- What stands behind the last dot of a name, or all of it if there is no dot. -/
def IsLastPart (name part : String) : Prop :=
  '.' ∉ part.toList ∧ (part = name ∨ ∃ front, name = front ++ "." ++ part)

/-- The walk from the back finds the last part. -/
theorem isLastPart_lastPart (name : String) : IsLastPart name (lastPart name) := by
  have hsplit : name.toList = (name.toList.reverse.dropWhile (· ≠ '.')).reverse ++
      (name.toList.reverse.takeWhile (· ≠ '.')).reverse := by
    rw [← List.reverse_append, List.takeWhile_append_dropWhile, List.reverse_reverse]
  refine ⟨?_, ?_⟩
  · rw [lastPart, String.toList_ofList, List.mem_reverse]
    intro hdot
    have hall := List.all_eq_true.mp List.all_takeWhile '.' hdot
    exact absurd hall (by decide)
  · -- the walk from the back comes to the front, or it stops at the last dot
    cases hrest : name.toList.reverse.dropWhile (· ≠ '.') with
    | nil =>
      rw [hrest, List.reverse_nil, List.nil_append] at hsplit
      refine .inl (String.toList_inj.mp ?_)
      rw [lastPart, String.toList_ofList, ← hsplit]
    | cons c front =>
      have hstop := List.head?_dropWhile_not (· ≠ '.') name.toList.reverse
      rw [hrest] at hstop
      have hdot : c = '.' := by simpa using hstop
      subst hdot
      refine .inr ⟨String.ofList front.reverse, String.toList_inj.mp ?_⟩
      rw [hrest, List.reverse_cons] at hsplit
      rw [lastPart]
      simp only [String.toList_append, String.toList_ofList]
      exact hsplit

/-! ## What an identifier means

  Three cases, in the order in which a look-up tries them, each with the condition that the earlier
  ones do not apply. -/

namespace Catalog

/-- What an identifier means in a catalog, as the segment that shows it. -/
inductive Means (c : Catalog) (id : String) : Segment → Prop where
  /-- the record of this qualified name -/
  | qualified {r : Record} (declared : r ∈ c.records.toList) (named : r.qualifiedName = id) :
      Means c id (.link id r.name)
  /-- the first record of this simple name -/
  | simple {r : Record} {before after : List Record}
      (unqualified : ∀ s ∈ c.records.toList, s.qualifiedName ≠ id)
      (declared : c.records.toList = before ++ r :: after) (named : r.name = id)
      (first : ∀ s ∈ before, s.name ≠ id) :
      Means c id (.link r.qualifiedName id)
  /-- nothing in the catalog -/
  | unknown {part : String} (unqualified : ∀ s ∈ c.records.toList, s.qualifiedName ≠ id)
      (unnamed : ∀ s ∈ c.records.toList, s.name ≠ id) (last : IsLastPart id part) :
      Means c id (.external part)

/-- An identifier that is found is linked to the record, under its simple name. -/
theorem linkIdentifier_of_some {c : Catalog} {id : String} {r : Record}
    (h : c.find? id = some r) : c.linkIdentifier id none = .link r.qualifiedName r.name := by
  rw [linkIdentifier, h]
  rfl

/-- One that is not found is shown by its last part. -/
theorem linkIdentifier_of_none {c : Catalog} {id : String} (h : c.find? id = none) :
    c.linkIdentifier id none = .external (lastPart id) := by
  rw [linkIdentifier, h]
  rfl

/-- An identifier is shown by what it means. -/
theorem means_linkIdentifier (rs : List Record) (id : String) :
    (ofList rs).Means id ((ofList rs).linkIdentifier id none) := by
  have h := represents_ofList rs
  have hfind := h.find?_eq id
  rw [← h.records] at hfind
  cases hq : (ofList rs).records.toList.find? (·.qualifiedName == id) with
  -- found by the qualified name
  | some r =>
    have hname := List.find?_some hq
    rw [beq_iff_eq] at hname
    rw [hq, Option.some_or] at hfind
    rw [linkIdentifier_of_some hfind, hname]
    exact .qualified (List.mem_of_find?_eq_some hq) hname
  | none =>
    -- no record has the qualified name, so that the simple names decide
    have hunqualified : ∀ s ∈ (ofList rs).records.toList, s.qualifiedName ≠ id := by
      intro s hs hname
      exact List.find?_eq_none.mp hq s hs (beq_iff_eq.mpr hname)
    rw [hq, Option.none_or] at hfind
    cases hs : (ofList rs).records.toList.find? (·.name == id) with
    | some r =>
      obtain ⟨hname, before, after, hrecords, hbefore⟩ := List.find?_eq_some_iff_append.mp hs
      rw [beq_iff_eq] at hname
      rw [linkIdentifier_of_some (hfind.trans hs), hname]
      refine .simple hunqualified hrecords hname fun s hmem heq => ?_
      have hno := hbefore s hmem
      rw [heq, beq_self_eq_true] at hno
      cases hno
    | none =>
      rw [linkIdentifier_of_none (hfind.trans hs)]
      refine .unknown hunqualified (fun s hmem hname => ?_) (isLastPart_lastPart id)
      exact List.find?_eq_none.mp hs s hmem (beq_iff_eq.mpr hname)

/-! ## How tokens are laid out

  `Shows` says what a layout has to be, by cutting the tokens into runs; the program builds it by
  putting one text in front of another.  The two meet in `Shows.putText`. -/

end Catalog

/-- Is the token shown as it is? -/
def Token.isPlain : Token → Bool
  | .identifier _ => false
  | _ => true

/-- The word of an identifier. -/
def Token.identifier? : Token → Option String
  | .identifier word => some word
  | _ => none

/-- Is the segment a text? -/
def Segment.isText : Segment → Bool
  | .text _ => true
  | _ => false

namespace Catalog

/-- The segments show the tokens: every identifier by what it means, every run of other tokens by
    one text. -/
inductive Shows (c : Catalog) : List Token → List Segment → Prop where
  | nil : Shows c [] []
  | identifier {word : String} {segment : Segment} {ts : List Token} {segments : List Segment}
      (means : c.Means word segment) (rest : Shows c ts segments) :
      Shows c (.identifier word :: ts) (segment :: segments)
  | text {run ts : List Token} {segments : List Segment} (nonempty : run ≠ [])
      (plain : ∀ t ∈ run, t.isPlain = true)
      -- the run is as long as it can be
      (maximal : ∀ t, ts.head? = some t → t.isPlain = false) (rest : Shows c ts segments) :
      Shows c (run ++ ts) (.text (String.join (run.map Token.text)) :: segments)

variable {c : Catalog} {ts : List Token} {segments : List Segment}

theorem Means.isText_eq_false {id : String} {segment : Segment} (h : c.Means id segment) :
    segment.isText = false := by
  cases h with
  | qualified => rfl
  | simple => rfl
  | unknown => rfl

theorem linkTokens_cons_of_plain {t : Token} (h : t.isPlain = true) (c : Catalog)
    (ts : List Token) : c.linkTokens (t :: ts) = Segment.putText t.text (c.linkTokens ts) := by
  cases t with
  | identifier word => cases h
  | delimiter char => rfl
  | keyword word => rfl
  | space => rfl

/-- In front of something else than a text, a text stands by itself. -/
theorem putText_of_not_text {segment : Segment} (h : segment.isText = false) (content : String)
    (segments : List Segment) :
    Segment.putText content (segment :: segments) = .text content :: segment :: segments := by
  cases segment with
  | text rest => cases h
  | link target label => rfl
  | external label => rfl

/-- **The step**: the text of a plain token in front of what is shown already. -/
theorem Shows.putText (h : c.Shows ts segments) {t : Token} (ht : t.isPlain = true) :
    c.Shows (t :: ts) (Segment.putText t.text segments) := by
  have hone : String.join ([t].map Token.text) = t.text := by
    rw [List.map_singleton, String.join_cons, String.join_nil, String.append_empty]
  have hplain : ∀ u ∈ [t], u.isPlain = true := fun u hu => by rw [List.mem_singleton.mp hu, ht]
  cases h with
  | nil =>
    -- nothing follows: the run is this token
    show c.Shows ([t] ++ []) [.text t.text]
    rw [← hone]
    exact .text (List.cons_ne_nil t []) hplain nofun .nil
  | identifier means rest =>
    -- an identifier follows: a run begins and ends with this token
    rw [putText_of_not_text means.isText_eq_false, ← hone]
    refine .text (List.cons_ne_nil t []) hplain ?_ (.identifier means rest)
    intro u hu
    rw [← Option.some.inj hu]
    rfl
  | @text run ts segments nonempty plain maximal rest =>
    -- a run follows: it becomes longer
    have hjoin : t.text ++ String.join (run.map Token.text) =
        String.join ((t :: run).map Token.text) := by
      rw [List.map_cons, String.join_cons]
    rw [Segment.putText, hjoin, ← List.cons_append]
    refine .text (List.cons_ne_nil t run) (fun u hu => ?_) maximal rest
    rcases List.mem_cons.mp hu with rfl | hu
    · exact ht
    · exact plain u hu

/-- **All tokens** are laid out. -/
theorem shows_linkTokens (rs : List Record) (ts : List Token) :
    (ofList rs).Shows ts ((ofList rs).linkTokens ts) := by
  induction ts with
  | nil => exact .nil
  | cons t ts ih =>
    by_cases ht : t.isPlain = true
    · rw [linkTokens_cons_of_plain ht]
      exact ih.putText ht
    · cases t with
      | identifier word => exact .identifier (means_linkIdentifier rs word) ih
      | delimiter char => exact absurd rfl ht
      | keyword word => exact absurd rfl ht
      | space => exact absurd rfl ht

/-! ## What the layout gives

  From here on neither tokens nor look-ups are opened again. -/

/-- The segments that are no text belong to the identifiers, one to one and in order. -/
theorem Shows.forall₂_means (h : c.Shows ts segments) :
    List.Forall₂ c.Means (ts.filterMap Token.identifier?) (segments.filter (!·.isText)) := by
  induction h with
  | nil => exact .nil
  | @identifier word segment ts segments means _ ih =>
    have hkeep : (!segment.isText) = true := by rw [means.isText_eq_false, Bool.not_false]
    have hword : (Token.identifier word).identifier? = some word := rfl
    rw [List.filterMap_cons_some hword, List.filter_cons, if_pos hkeep]
    exact .cons means ih
  | @text run ts segments _ plain _ _ ih =>
    -- a run holds no identifier, and its text is no reference
    have hnone : run.filterMap Token.identifier? = [] := by
      refine List.filterMap_eq_nil_iff.mpr fun t ht => ?_
      cases t with
      | identifier word => cases plain _ ht
      | delimiter char => rfl
      | keyword word => rfl
      | space => rfl
    rw [List.filterMap_append, hnone, List.nil_append, List.filter_cons_of_neg Bool.false_ne_true]
    exact ih

/-- What is no text is the meaning of some identifier. -/
theorem Shows.means_of_mem (h : c.Shows ts segments) {segment : Segment}
    (hmem : segment ∈ segments) (hno : segment.isText = false) :
    ∃ word, .identifier word ∈ ts ∧ c.Means word segment := by
  induction h with
  | nil => cases hmem
  | identifier means _ ih =>
    rcases List.mem_cons.mp hmem with rfl | hmem
    · exact ⟨_, List.mem_cons_self, means⟩
    · obtain ⟨word, hword, hmeans⟩ := ih hmem
      exact ⟨word, List.mem_cons_of_mem _ hword, hmeans⟩
  | text _ _ _ _ ih =>
    rcases List.mem_cons.mp hmem with rfl | hmem
    · cases hno
    · obtain ⟨word, hword, hmeans⟩ := ih hmem
      exact ⟨word, List.mem_append_right _ hword, hmeans⟩

/-- If the first segment is a text, the first token is plain.  With runs as long as they can be,
    this is why no two texts meet. -/
theorem Shows.plain_of_text (h : c.Shows ts segments) {content : String}
    (htext : segments.head? = some (.text content)) :
    ∃ t, ts.head? = some t ∧ t.isPlain = true := by
  cases h with
  | nil => cases htext
  | identifier means rest =>
    have hno := means.isText_eq_false
    rw [Option.some.inj htext] at hno
    cases hno
  | text nonempty plain maximal rest =>
    obtain ⟨t, run, rfl⟩ := List.exists_cons_of_ne_nil nonempty
    exact ⟨t, rfl, plain t List.mem_cons_self⟩

/-- No text stands next to a text. -/
theorem Shows.texts_apart (h : c.Shows ts segments) : ∀ (i : Nat) (first second : String),
    segments[i]? = some (.text first) → segments[i + 1]? ≠ some (.text second) := by
  induction h with
  | nil => nofun
  | identifier means _ ih =>
    intro i first second hfirst
    cases i with
    | zero =>
      have hno := means.isText_eq_false
      rw [Option.some.inj hfirst] at hno
      cases hno
    | succ i => exact ih i first second hfirst
  | @text run ts segments _ _ maximal rest ih =>
    intro i first second hfirst
    cases i with
    | zero =>
      -- a text behind a run would have to begin with a plain token
      intro hsecond
      rw [List.getElem?_cons_succ, ← List.head?_eq_getElem?] at hsecond
      obtain ⟨t, ht, hplain⟩ := rest.plain_of_text hsecond
      rw [maximal t ht] at hplain
      cases hplain
    | succ i => exact ih i first second hfirst

end Catalog

/-- The text of a token is never empty. -/
theorem Token.WellFormed.text_ne_empty {t : Token} (h : t.WellFormed) : t.text ≠ "" := by
  cases t with
  | delimiter c => exact String.singleton_ne_empty
  | keyword word => exact keyword_ne_empty word (List.mem_append.mpr h)
  | identifier word => exact h.nonempty
  | space => decide

namespace Catalog

variable {c : Catalog} {ts : List Token} {segments : List Segment}

/-- No text is empty. -/
theorem Shows.text_ne_empty (h : c.Shows ts segments) (wellFormed : ∀ t ∈ ts, t.WellFormed) :
    .text "" ∉ segments := by
  induction h with
  | nil => nofun
  | identifier means _ ih =>
    intro hmem
    rcases List.mem_cons.mp hmem with rfl | hmem
    · cases means.isText_eq_false
    · exact ih (fun t ht => wellFormed t (List.mem_cons_of_mem _ ht)) hmem
  | @text run ts segments nonempty _ _ _ ih =>
    intro hmem
    rcases List.mem_cons.mp hmem with heq | hmem
    · -- a run has a token, and every token has a text
      obtain ⟨t, run, rfl⟩ := List.exists_cons_of_ne_nil nonempty
      have hempty := Segment.text.inj heq
      rw [List.map_cons, String.join_cons] at hempty
      have ht : t.text = "" := (String.append_eq_empty_iff.mp hempty.symm).1
      exact (wellFormed t List.mem_cons_self).text_ne_empty ht
    · exact ih (fun t ht => wellFormed t (List.mem_append_right _ ht)) hmem

/-- **Links lead to what the identifiers mean.**  Whatever records were added to a catalog, and
    whatever the expression:

    * its segments show its tokens, so that those that are no text belong to the identifiers;
    * no text is empty or next to another;
    * a link leads to a record, and what is external has neither the qualified nor the simple name
      of any;
    * a keyword is never an identifier, and alone it is plain text. -/
theorem link_shows_meanings (rs : List Record) (expr : String) :
    (ofList rs).Shows (Token.tokens expr) ((ofList rs).link expr) ∧
    List.Forall₂ (ofList rs).Means ((Token.tokens expr).filterMap Token.identifier?)
      (((ofList rs).link expr).filter (!·.isText)) ∧
    .text "" ∉ (ofList rs).link expr ∧
    (∀ i first second, ((ofList rs).link expr)[i]? = some (.text first) →
      ((ofList rs).link expr)[i + 1]? ≠ some (.text second)) ∧
    (∀ target label, .link target label ∈ (ofList rs).link expr →
      ∃ r ∈ (ofList rs).records.toList, r.qualifiedName = target) ∧
    (∀ label, .external label ∈ (ofList rs).link expr →
      ∃ id, .identifier id ∈ Token.tokens expr ∧ IsLastPart id label ∧
        ∀ r ∈ (ofList rs).records.toList, r.qualifiedName ≠ id ∧ r.name ≠ id) ∧
    (∀ word, word ∈ Token.primitives ∨ word ∈ Token.bounds →
      .identifier word ∉ Token.tokens expr ∧ (ofList rs).link word = [.text word]) := by
  have h : (ofList rs).Shows (Token.tokens expr) ((ofList rs).link expr) := shows_linkTokens rs _
  have wellFormed := (Token.reads_tokens expr).wellFormed
  refine ⟨h, h.forall₂_means, h.text_ne_empty wellFormed, h.texts_apart, ?_, ?_, ?_⟩
  · intro target label hmem
    obtain ⟨id, -, means⟩ := h.means_of_mem hmem rfl
    cases means with
    | qualified declared named => exact ⟨_, declared, named⟩
    | simple _ declared _ _ =>
      refine ⟨_, ?_, rfl⟩
      rw [declared]
      exact List.mem_append_right _ List.mem_cons_self
  · intro label hmem
    obtain ⟨id, hid, means⟩ := h.means_of_mem hmem rfl
    cases means with
    | unknown unqualified unnamed last =>
      exact ⟨id, hid, last, fun r hr => ⟨unqualified r hr, unnamed r hr⟩⟩
  · intro word hword
    refine ⟨fun hmem => ?_, ?_⟩
    · have hidentifier : Token.IsIdentifier word := wellFormed _ hmem
      rcases hword with hprimitive | hbound
      · exact hidentifier.notPrimitive hprimitive
      · exact hidentifier.notBound hbound
    · rw [link, Token.tokens_keyword (List.mem_append.mpr hword)]
      rfl

end Catalog
end DocIndex
