/-
  TOKENS, PART BY PART.

  The scan keeps a stretch of characters and looks back at it, at every space and at every delimiter.
  What it looks back at never reaches beyond the last delimiter, and so an expression can be taken apart
  there.

  1. **A delimiter parts an expression** (`scan_append_delimiter`) — by induction on what stands in front
     of the delimiter, with any stretch kept before it.  Each of the two parts is read as if it stood
     alone; that a part that is a primitive would then not be scanned at all makes no difference.

  2. **Blanks around a part** — in front of it they change nothing.  Behind it they may: the space of
     `extends ` splits the bound off and shows as a token.  `unspaced_scan_append_blank` says that this
     is the only change.  The induction is on the part again; at its end, each of the blanks either
     leaves the stretch as it was when trimmed or cuts it where nothing but blanks follow.

  3. **Links** (`references_linkTokens`) — what is no text depends on the identifiers alone, in whatever
     catalog they are looked up.

  4. **Main statements** (`tokens_part_by_part`, `spacing_keeps_references`).

  Nesting plays no part in this: the scan does not know that brackets belong together, and an
  expression with brackets left open is read like any other.
-/
import DocIndex.Proofs.TypeExpr.Linking
import DocIndex.Proofs.TypeExpr.NormalForm

namespace DocIndex
namespace Token

open Text (Blank trim)

/-! ## A delimiter parts an expression

  The scan forgets its stretch at a delimiter, and so what comes behind one cannot depend on what
  stood in front.  The converse needs a proof: that what stands in front does not notice the
  delimiter, and ends there as an expression ends. -/

/-- **At a delimiter** the scan begins anew, whatever it has kept so far. -/
theorem scan_append_delimiter {d : Char} (h : d ∈ delimiters) (cs ds : List Char) :
    ∀ before : List Char,
      scan before (cs ++ d :: ds) = scan before cs ++ ofDelimiter d ++ scan [] ds := by
  induction cs with
  | nil =>
    intro before
    rw [List.nil_append, scan_delimiter h, scan]
  | cons c cs ih =>
    intro before
    rw [List.cons_append]
    rcases scan_cases before c with hdelimiter | ⟨rfl, hbound⟩ | ⟨hplain, hgo⟩
    · rw [scan_delimiter hdelimiter, scan_delimiter hdelimiter, ih]
      simp only [List.append_assoc]
    · rw [scan_bound hbound, scan_bound hbound, ih]
      simp only [List.cons_append]
    · rw [scan_other hplain hgo, scan_other hplain hgo, ih]

/-- A delimiter alone: itself, and a space if it is a comma. -/
theorem tokens_delimiter {d : Char} (h : d ∈ delimiters) :
    tokens (String.singleton d) = ofDelimiter d := by
  rw [tokens_eq_scan, String.toList_singleton, scan_delimiter h]
  exact List.append_nil _

theorem tokens_append_delimiter {d : Char} (h : d ∈ delimiters) (a b : String) :
    tokens (a ++ String.singleton d ++ b) =
      tokens a ++ tokens (String.singleton d) ++ tokens b := by
  have hlist : (a ++ String.singleton d ++ b).toList = a.toList ++ d :: b.toList := by
    rw [String.toList_append, String.toList_append, String.toList_singleton, List.append_assoc,
      List.singleton_append]
  rw [tokens_delimiter h, tokens_eq_scan, hlist, scan_append_delimiter h, tokens_eq_scan a,
    tokens_eq_scan b]

/-- The expression of a first part and of further parts, each with the delimiter in front of it. -/
def assembled (first : String) : List (Char × String) → String
  | [] => first
  | (d, part) :: parts => first ++ String.singleton d ++ assembled part parts

/-- The parts are read one by one. -/
theorem tokens_assembled (parts : List (Char × String)) (h : ∀ p ∈ parts, p.1 ∈ delimiters) :
    ∀ first : String, tokens (assembled first parts) =
      tokens first ++ parts.flatMap fun p => tokens (String.singleton p.1) ++ tokens p.2 := by
  induction parts with
  | nil =>
    intro first
    rw [assembled, List.flatMap_nil, List.append_nil]
  | cons p parts ih =>
    intro first
    have hd : p.1 ∈ delimiters := h p List.mem_cons_self
    have hparts : ∀ q ∈ parts, q.1 ∈ delimiters := fun q hq => h q (List.mem_cons_of_mem p hq)
    rw [assembled, tokens_append_delimiter hd, ih hparts, List.flatMap_cons]
    simp only [List.append_assoc]

/-- Characters put in front of an expression belong to its first part. -/
theorem assembled_append (front first : String) (parts : List (Char × String)) :
    assembled (front ++ first) parts = front ++ assembled first parts := by
  cases parts with
  | nil => rfl
  | cons p parts => rw [assembled, assembled, String.append_assoc, String.append_assoc,
      String.append_assoc]

/-- Every expression has parts without delimiters. -/
theorem exists_parts (cs : List Char) : ∃ first parts,
    String.ofList cs = assembled first parts ∧ (∀ c ∈ first.toList, c ∉ delimiters) ∧
    ∀ p ∈ parts, p.1 ∈ delimiters ∧ ∀ c ∈ p.2.toList, c ∉ delimiters := by
  induction cs with
  | nil =>
    refine ⟨"", [], rfl, fun c hc => ?_, List.forall_mem_nil _⟩
    exact absurd hc List.not_mem_nil
  | cons c cs ih =>
    obtain ⟨first, parts, heq, hfirst, hparts⟩ := ih
    have hcons : String.ofList (c :: cs) = String.singleton c ++ assembled first parts := by
      rw [← heq, ← String.toList_inj, String.toList_append, String.toList_singleton,
        String.toList_ofList, String.toList_ofList, List.singleton_append]
    by_cases hdelimiter : c ∈ delimiters
    · -- the part that was first is now behind a delimiter
      refine ⟨"", (c, first) :: parts, ?_, fun x hx => absurd hx List.not_mem_nil, ?_⟩
      · rw [hcons, assembled, String.empty_append]
      · exact List.forall_mem_cons.mpr ⟨⟨hdelimiter, hfirst⟩, hparts⟩
    · -- the first part becomes longer
      refine ⟨String.singleton c ++ first, parts, ?_, fun x hx => ?_, hparts⟩
      · rw [hcons, assembled_append]
      · rw [String.toList_append, String.toList_singleton, List.singleton_append] at hx
        rcases List.mem_cons.mp hx with rfl | hx
        · exact hdelimiter
        · exact hfirst x hx

/-- **Expressions are read part by part.**

    * An expression that is put together at a delimiter has the tokens of its two parts with those of
      the delimiter between them, and these are the delimiter and, behind a comma, a space.
    * That a primitive is recognised without a scan agrees with scanning it.
    * However many delimiters there are and however they are nested, what stands between two of them has
      the tokens that it has alone; and every expression is put together from parts without delimiters. -/
theorem tokens_part_by_part :
    (∀ (a b : String) (d : Char), d ∈ delimiters →
      tokens (a ++ String.singleton d ++ b) =
        tokens a ++ tokens (String.singleton d) ++ tokens b ∧
      tokens (String.singleton d) = .delimiter d :: if d = ',' then [.space] else []) ∧
    (∀ expr, tokens expr = scan [] expr.toList) ∧
    (∀ first parts, (∀ p ∈ parts, p.1 ∈ delimiters) →
      tokens (assembled first parts) =
        tokens first ++ parts.flatMap fun p => tokens (String.singleton p.1) ++ tokens p.2) ∧
    (∀ expr, ∃ first parts, expr = assembled first parts ∧ (∀ c ∈ first.toList, c ∉ delimiters) ∧
      ∀ p ∈ parts, p.1 ∈ delimiters ∧ ∀ c ∈ p.2.toList, c ∉ delimiters) := by
  refine ⟨fun a b d hd => ⟨tokens_append_delimiter hd a b, ?_⟩, tokens_eq_scan,
    fun first parts h => tokens_assembled parts h first, fun expr => ?_⟩
  · rw [tokens_delimiter hd, ofDelimiter]
    split
    · rfl
    · rfl
  · have hparts := exists_parts expr.toList
    rw [String.ofList_toList] at hparts
    exact hparts

-- the parts of a nested generic
example : assembled "Map" [('<', "int"), (',', "List"), ('<', "extends A"), ('>', ""), ('>', "")] =
    "Map<int,List<extends A>>" := by decide

/-! ## Blanks around a part

  Put in front, blanks are trimmed off the stretch that they join.  Put behind, they come when the
  scan looks back, and it may find a bound.  Tokens are therefore compared without their spaces. -/

theorem whole_of_blank {lead : List Char} (h : Blank lead) : Whole lead := by
  have hwhole := whole_nil.around_trim h
  have hnil : trim [] = [] := Text.trim_of_blank Text.blank_nil
  rw [hnil, List.append_nil] at hwhole
  exact hwhole

/-- Blanks in front of the stretch that is kept change nothing. -/
theorem scan_blank_append {lead : List Char} (h : Blank lead) (cs : List Char) :
    ∀ before : List Char, scan (lead ++ before) cs = scan before cs := by
  induction cs with
  | nil =>
    intro before
    rw [scan, scan]
    exact ofStretch_congr (Text.trim_blank_append h before)
  | cons c cs ih =>
    intro before
    -- the scan looks back at the trimmed stretch, which is the same
    have hword : trim (lead ++ before) = trim before := Text.trim_blank_append h before
    rcases scan_cases before c with hdelimiter | ⟨rfl, hbound⟩ | ⟨hplain, hgo⟩
    · rw [scan_delimiter hdelimiter, scan_delimiter hdelimiter, ofStretch_congr hword]
    · have hsame : String.ofList (trim (lead ++ before)) ∈ bounds := by
        rw [hword]
        exact hbound
      rw [scan_bound hbound, scan_bound hsame, hword]
    · have hsame : c = ' ' → String.ofList (trim (lead ++ before)) ∉ bounds := by
        rw [hword]
        exact hgo
      rw [scan_other hplain hgo, scan_other hplain hsame, List.append_assoc, ih]

/-- Blanks in front of an expression change nothing. -/
theorem tokens_blank_append {lead : String} (h : Blank lead.toList) (expr : String) :
    tokens (lead ++ expr) = tokens expr := by
  have hwhole : Whole ([] ++ lead.toList) := whole_of_blank h
  have hlead := scan_blank_append h expr.toList []
  rw [List.append_nil] at hlead
  rw [tokens_eq_scan, String.toList_append, scan_through hwhole, List.nil_append, hlead,
    tokens_eq_scan]

/-- The tokens without the spaces. -/
def unspaced (ts : List Token) : List Token := ts.filter (· ≠ .space)

@[simp] theorem unspaced_append (ts us : List Token) :
    unspaced (ts ++ us) = unspaced ts ++ unspaced us :=
  List.filter_append ..

theorem unspaced_bound (word : String) (ts : List Token) :
    unspaced (.keyword word :: .space :: ts) = .keyword word :: unspaced ts := rfl

theorem unspaced_ofStretch (cs : List Char) : unspaced (ofStretch cs) = ofStretch cs := by
  rcases ofStretch_cases cs with ⟨-, hnone⟩ | ⟨-, hone⟩
  · rw [hnone]
    rfl
  · rw [hone, ofWord]
    split
    · rfl
    · rfl

/-- A stretch that is a bound is the same token, whether it is split off or ends. -/
theorem ofStretch_of_bound {cs : List Char} (h : String.ofList (trim cs) ∈ bounds) :
    ofStretch cs = [.keyword (String.ofList (trim cs))] := by
  have hkeyword : String.ofList (trim cs) ∈ keywords := List.mem_append_right _ h
  rcases ofStretch_cases cs with ⟨hnil, -⟩ | ⟨-, hone⟩
  · rw [hnil] at hkeyword
    exact absurd rfl (keyword_ne_empty _ hkeyword)
  · rw [hone, ofWord_of_mem hkeyword]

/-- Of blanks that end an expression, no more than a space is seen. -/
theorem unspaced_scan_blank (trail : List Char) : ∀ before : List Char, Blank trail →
    unspaced (scan before trail) = ofStretch before := by
  induction trail with
  | nil =>
    intro before _
    rw [scan, unspaced_ofStretch]
  | cons c trail ih =>
    intro before hblank
    have hc : Text.isBlank c = true := hblank c List.mem_cons_self
    have htrail : Blank trail := fun x hx => hblank x (List.mem_cons_of_mem c hx)
    rcases scan_cases before c with hdelimiter | ⟨rfl, hbound⟩ | ⟨hplain, hgo⟩
    · exact absurd hdelimiter (not_mem_delimiters_of_blank hc)
    · -- the bound is split off, and nothing but blanks follow
      rw [scan_bound hbound, unspaced_bound, ih [] htrail, ofStretch_of_bound hbound]
      rfl
    · -- the blank joins the stretch and is trimmed off again
      have hone : Blank [c] := List.forall_mem_singleton.mpr hc
      rw [scan_other hplain hgo, ih _ htrail]
      exact ofStretch_congr (Text.trim_append_blank before hone)

/-- **Blanks behind a part** show in spaces only. -/
theorem unspaced_scan_append_blank {trail : List Char} (h : Blank trail) (cs : List Char) :
    ∀ before : List Char, unspaced (scan before (cs ++ trail)) = unspaced (scan before cs) := by
  induction cs with
  | nil =>
    intro before
    rw [List.nil_append, unspaced_scan_blank trail before h, scan, unspaced_ofStretch]
  | cons c cs ih =>
    intro before
    rw [List.cons_append]
    rcases scan_cases before c with hdelimiter | ⟨rfl, hbound⟩ | ⟨hplain, hgo⟩
    · rw [scan_delimiter hdelimiter, scan_delimiter hdelimiter, unspaced_append, ih,
        ← unspaced_append]
    · rw [scan_bound hbound, scan_bound hbound, unspaced_bound, unspaced_bound, ih]
    · rw [scan_other hplain hgo, scan_other hplain hgo, ih]

/-- **Blanks around an expression** show in spaces only. -/
theorem unspaced_tokens_around {lead trail : String} (hlead : Blank lead.toList)
    (htrail : Blank trail.toList) (expr : String) :
    unspaced (tokens (lead ++ expr ++ trail)) = unspaced (tokens expr) := by
  rw [String.append_assoc, tokens_blank_append hlead, tokens_eq_scan, String.toList_append,
    unspaced_scan_append_blank htrail, ← tokens_eq_scan]

/-- Blanks around the two parts at a delimiter show in spaces only. -/
theorem unspaced_tokens_around_parts {d : Char} (hd : d ∈ delimiters)
    {lead trail lead' trail' : String} (hlead : Blank lead.toList) (htrail : Blank trail.toList)
    (hlead' : Blank lead'.toList) (htrail' : Blank trail'.toList) (a b : String) :
    unspaced (tokens ((lead ++ a ++ trail) ++ String.singleton d ++ (lead' ++ b ++ trail'))) =
      unspaced (tokens (a ++ String.singleton d ++ b)) := by
  rw [tokens_append_delimiter hd, tokens_append_delimiter hd, unspaced_append, unspaced_append,
    unspaced_tokens_around hlead htrail, unspaced_tokens_around hlead' htrail', ← unspaced_append,
    ← unspaced_append]

theorem filterMap_identifier?_unspaced (ts : List Token) :
    (unspaced ts).filterMap identifier? = ts.filterMap identifier? := by
  rw [unspaced, List.filterMap_filter]
  refine List.filterMap_congr fun t _ => ?_
  cases t with
  | space => rfl
  | delimiter c => rfl
  | keyword word => rfl
  | identifier word => rfl

end Token

/-! ## Links

  From tokens to segments: a space is a part of some text, and texts are no references. -/

namespace Catalog

open Text (Blank)
open Token (tokens unspaced)

/-- The segments that stand for an identifier: links, and names that are external. -/
def references (segments : List Segment) : List Segment :=
  segments.filter fun s => s.isLink || s.isExternal

theorem references_putText (content : String) (segments : List Segment) :
    references (Segment.putText content segments) = references segments := by
  cases segments with
  | nil => rfl
  | cons segment segments =>
    cases segment with
    | text rest => rfl
    | link target label => rfl
    | external label => rfl

/-- What an identifier is linked to is a reference, found or not. -/
theorem references_linkIdentifier (c : Catalog) (id : String) (segments : List Segment) :
    references (c.linkIdentifier id none :: segments) =
      c.linkIdentifier id none :: references segments := by
  cases hfind : c.find? id with
  | none =>
    rw [linkIdentifier_of_none hfind]
    rfl
  | some r =>
    rw [linkIdentifier_of_some hfind]
    rfl

/-- Each identifier is looked up by itself. -/
theorem references_linkTokens (c : Catalog) (ts : List Token) :
    references (c.linkTokens ts) =
      (ts.filterMap Token.identifier?).map (c.linkIdentifier · none) := by
  induction ts with
  | nil => rfl
  | cons t ts ih =>
    -- all but identifiers put text in front
    by_cases hplain : t.isPlain = true
    · have hnone : t.identifier? = none := by
        cases t with
        | identifier word => cases hplain
        | delimiter char => rfl
        | keyword word => rfl
        | space => rfl
      rw [linkTokens_cons_of_plain hplain, references_putText, ih, List.filterMap_cons_none hnone]
    · cases t with
      | identifier word =>
        have hword : (Token.identifier word).identifier? = some word := rfl
        rw [linkTokens, references_linkIdentifier, ih, List.filterMap_cons_some hword, List.map_cons]
      | delimiter char => exact absurd rfl hplain
      | keyword word => exact absurd rfl hplain
      | space => exact absurd rfl hplain

/-- Expressions that differ in spaces only have the same references. -/
theorem references_link_congr (c : Catalog) {expr expr' : String}
    (h : Token.unspaced (Token.tokens expr) = Token.unspaced (Token.tokens expr')) :
    references (c.link expr) = references (c.link expr') := by
  rw [link, link, references_linkTokens, references_linkTokens,
    ← Token.filterMap_identifier?_unspaced, h, Token.filterMap_identifier?_unspaced]

/-- **Spacing around a delimiter never changes links.**  Blanks around the whole expression, or on both
    sides of the delimiter, give the same tokens but for spaces, and the same links and external names in
    every catalog. -/
theorem spacing_keeps_references {d : Char} (hd : d ∈ Token.delimiters) (a b : String)
    {u v w x : String} (hu : Blank u.toList) (hv : Blank v.toList) (hw : Blank w.toList)
    (hx : Blank x.toList) :
    ∀ respaced ∈ [w ++ a ++ String.singleton d ++ b ++ x, a ++ u ++ String.singleton d ++ v ++ b],
      unspaced (tokens respaced) = unspaced (tokens (a ++ String.singleton d ++ b)) ∧
      ∀ c : Catalog,
        references (c.link respaced) = references (c.link (a ++ String.singleton d ++ b)) := by
  have hnone : Blank "".toList := Text.blank_nil
  -- both ways of respacing, as blanks around the two parts
  have houter : w ++ a ++ String.singleton d ++ b ++ x =
      (w ++ a ++ "") ++ String.singleton d ++ ("" ++ b ++ x) := by
    simp only [String.append_empty, String.empty_append, String.append_assoc]
  have hinner : a ++ u ++ String.singleton d ++ v ++ b =
      ("" ++ a ++ u) ++ String.singleton d ++ (v ++ b ++ "") := by
    simp only [String.append_empty, String.empty_append, String.append_assoc]
  intro respaced hmem
  have hsame : unspaced (tokens respaced) = unspaced (tokens (a ++ String.singleton d ++ b)) := by
    rcases List.mem_pair.mp hmem with rfl | rfl
    · rw [houter]
      exact Token.unspaced_tokens_around_parts hd hw hnone hnone hx a b
    · rw [hinner]
      exact Token.unspaced_tokens_around_parts hd hnone hu hv hnone a b
  exact ⟨hsame, fun c => c.references_link_congr hsame⟩

/-- A no-break space and a space behind a bound make one token more, and no other link. -/
theorem spacing_keeps_references_of_bound :
    tokens "extends\u00A0 ,\tUser" ≠ tokens "extends,User" ∧
    unspaced (tokens "extends\u00A0 ,\tUser") = unspaced (tokens "extends,User") ∧
    ∀ c : Catalog,
      references (c.link "extends\u00A0 ,\tUser") = references (c.link "extends,User") := by
  have hu : Blank "\u00A0 ".toList := List.all_eq_true.mp (by decide)
  have hv : Blank "\t".toList := List.all_eq_true.mp (by decide)
  have hnone : Blank "".toList := Text.blank_nil
  have hcomma : ',' ∈ Token.delimiters := by decide
  refine ⟨by decide, ?_⟩
  exact spacing_keeps_references hcomma "extends" "User" hu hv hnone hnone _
    (List.mem_cons_of_mem _ List.mem_cons_self)

end Catalog
end DocIndex
