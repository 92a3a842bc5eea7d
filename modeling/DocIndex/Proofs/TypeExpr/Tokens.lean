/-
  TOKENS SPELL THE EXPRESSION.

  The scan looks at one character at a time and keeps the stretch since its last cut.  It cuts by
  three rules: at a delimiter, at a space behind a bound, and at the end.

  1. **How an expression is read** (`Reads`) — the three rules as a relation between an expression
     and its tokens, one constructor each.  `reads_scan` shows that the scan follows them; the
     invariant of the scan is that its stretch is `Uncut`: it holds no delimiter, and behind its
     leading blanks it does not begin with a bound and a space.  All that follows is an induction on
     `Reads` and does not open the scan again.

  2. **What tokens look like** — `WellFormed` says it of one token, `Spaced` of neighbours.

  3. **Nothing is lost** (`Reads.ink_spelled`) — the tokens spell the expression, up to blanks.  With
     well-formed tokens this already gives the delimiters: they are no blanks, and no other token
     holds one.

  4. **Main statement** (`tokens_spell_expression`).

  The scan could be reasoned about directly, but its cuts depend on the stretch it has kept, and
  every statement would have to carry that stretch along.  The relation has it only where a stretch
  ends.
-/
import DocIndex.Proofs.Text.Blank
import DocIndex.TypeExpr.Token

namespace DocIndex
namespace Token

/-! ## Words

  The short lists of words and characters that the scan knows, as propositions, with what they have
  in common: a keyword is all letters, a delimiter is no blank. -/

theorem isPrimitive_iff (word : String) : isPrimitive word = true ↔ word ∈ primitives :=
  List.contains_iff_mem

theorem isBound_iff (word : String) : isBound word = true ↔ word ∈ bounds :=
  List.contains_iff_mem

theorem isDelimiter_iff (c : Char) : isDelimiter c = true ↔ c ∈ delimiters :=
  List.contains_iff_mem

/-- The words that are never identifiers. -/
def keywords : List String := primitives ++ bounds

theorem mem_keywords_iff (word : String) :
    word ∈ keywords ↔ (isPrimitive word || isBound word) = true := by
  rw [keywords, List.mem_append, Bool.or_eq_true, isPrimitive_iff, isBound_iff]

/-- A keyword is one word: neither blanks nor delimiters are in it. -/
theorem keyword_chars {word : String} (h : word ∈ keywords) {c : Char} (hc : c ∈ word.toList) :
    c ∉ delimiters ∧ Text.isBlank c = false := by
  -- as one Boolean, so that the eleven words are looked at and not all characters
  have hall : keywords.all (fun word => word.toList.all fun c =>
      !isDelimiter c && !Text.isBlank c) = true := by decide
  have hchar := List.all_eq_true.mp (List.all_eq_true.mp hall word h) c hc
  rw [Bool.and_eq_true, Bool.not_eq_true', Bool.not_eq_true'] at hchar
  refine ⟨fun hdelimiter => ?_, hchar.2⟩
  rw [(isDelimiter_iff c).mpr hdelimiter] at hchar
  cases hchar.1

/-- No keyword is the empty word, so a blank stretch is never taken for one. -/
theorem keyword_ne_empty : ∀ word ∈ keywords, word ≠ "" := by decide

theorem bound_length_pos : ∀ bound ∈ bounds, 0 < bound.toList.length := by decide

/-- No delimiter is a blank.  So whatever is trimmed off a stretch, it is no delimiter. -/
theorem not_blank_of_mem_delimiters {c : Char} (h : c ∈ delimiters) : Text.isBlank c = false := by
  have hall : delimiters.all (!Text.isBlank ·) = true := by decide
  have hchar := List.all_eq_true.mp hall c h
  rw [Bool.not_eq_true'] at hchar
  exact hchar

theorem ofWord_of_mem {word : String} (h : word ∈ keywords) : ofWord word = .keyword word :=
  if_pos ((mem_keywords_iff word).mp h)

theorem ofWord_of_not_mem {word : String} (h : word ∉ keywords) :
    ofWord word = .identifier word :=
  if_neg fun hkeyword => h ((mem_keywords_iff word).mpr hkeyword)

@[simp] theorem text_ofWord (word : String) : (ofWord word).text = word := by
  by_cases h : word ∈ keywords
  · rw [ofWord_of_mem h, text]
  · rw [ofWord_of_not_mem h, text]

/-- A stretch is one word, or it is blank. -/
theorem ofStretch_cases (cs : List Char) :
    (Text.trim cs = [] ∧ ofStretch cs = []) ∨
    (Text.trim cs ≠ [] ∧ ofStretch cs = [ofWord (String.ofList (Text.trim cs))]) := by
  rw [ofStretch]
  cases Text.trim cs with
  | nil => exact .inl ⟨rfl, rfl⟩
  | cons c rest => exact .inr ⟨List.cons_ne_nil c rest, rfl⟩

/-! ## One step of the scan

  The scan has two arguments, what it has kept and what is to come, and each of its steps is an
  equation.  The three equations and `scan_cases`, which says that one of them applies, are all that
  is ever used of it. -/

/-- At a delimiter the stretch ends, and a new one begins behind it. -/
theorem scan_delimiter {c : Char} (h : c ∈ delimiters) (before cs : List Char) :
    scan before (c :: cs) = ofStretch before ++ ofDelimiter c ++ scan [] cs := by
  rw [scan, if_pos ((isDelimiter_iff c).mpr h)]

/-- At a space behind a bound the stretch ends too, and the space becomes a token. -/
theorem scan_bound {before : List Char} (h : String.ofList (Text.trim before) ∈ bounds)
    (cs : List Char) :
    scan before (' ' :: cs) =
      .keyword (String.ofList (Text.trim before)) :: .space :: scan [] cs := by
  have hplain : ¬ isDelimiter ' ' = true := by decide
  have hbound := (isBound_iff _).mpr h
  rw [scan, if_neg hplain]
  simp only [hbound, decide_true, Bool.and_self, if_true]

/-- At any other character the stretch grows. -/
theorem scan_other {before : List Char} {c : Char} (plain : c ∉ delimiters)
    (goesOn : c = ' ' → String.ofList (Text.trim before) ∉ bounds) (cs : List Char) :
    scan before (c :: cs) = scan (before ++ [c]) cs := by
  have hplain : ¬ isDelimiter c = true := fun h => plain ((isDelimiter_iff c).mp h)
  have hgo : ¬ (decide (c = ' ') && isBound (String.ofList (Text.trim before))) = true := by
    rw [Bool.and_eq_true, decide_eq_true_iff, isBound_iff]
    exact fun h => goesOn h.1 h.2
  rw [scan, if_neg hplain]
  exact if_neg hgo

/-- The three things that the scan does at a character, behind what it has kept. -/
theorem scan_cases (before : List Char) (c : Char) :
    c ∈ delimiters ∨ (c = ' ' ∧ String.ofList (Text.trim before) ∈ bounds) ∨
    (c ∉ delimiters ∧ (c = ' ' → String.ofList (Text.trim before) ∉ bounds)) := by
  by_cases hdelimiter : c ∈ delimiters
  · exact .inl hdelimiter
  · by_cases hcut : c = ' ' ∧ String.ofList (Text.trim before) ∈ bounds
    · exact .inr (.inl hcut)
    · exact .inr (.inr ⟨hdelimiter, fun hspace hbound => hcut ⟨hspace, hbound⟩⟩)

/-! ## How an expression is read

  The scan decides at a space by looking back at the stretch.  `Uncut` is what these decisions leave
  behind: a bound at the beginning of a word cannot be followed by a space, or the scan would have
  cut there. -/

/-- Nothing in the stretch makes the scan cut it. -/
structure Uncut (cs : List Char) : Prop where
  noDelimiter : ∀ c ∈ cs, c ∉ delimiters
  noBound : ∀ bound ∈ bounds, ¬ bound.toList ++ [' '] <+: cs.dropWhile Text.isBlank

theorem uncut_nil : Uncut [] where
  noDelimiter := nofun
  noBound := by
    intro bound _ hfront
    have hnil := List.prefix_nil.mp hfront
    exact absurd (List.append_eq_nil_iff.mp hnil).2 (List.cons_ne_nil _ _)

/-- A stretch without a delimiter has none behind one more character that is no delimiter.  Both
    invariants of the scan, `Uncut` here and the stronger `Whole`, grow by it. -/
theorem noDelimiter_snoc {cs : List Char} (h : ∀ x ∈ cs, x ∉ delimiters) {c : Char}
    (plain : c ∉ delimiters) : ∀ x ∈ cs ++ [c], x ∉ delimiters :=
  List.forall_mem_append.mpr ⟨h, List.forall_mem_singleton.mpr plain⟩

/-- A stretch grows by a character at which it is not cut. -/
theorem Uncut.snoc {cs : List Char} (h : Uncut cs) {c : Char} (plain : c ∉ delimiters)
    (goesOn : c = ' ' → String.ofList (Text.trim cs) ∉ bounds) : Uncut (cs ++ [c]) where
  noDelimiter := noDelimiter_snoc h.noDelimiter plain
  noBound := by
    intro bound hbound hfront
    rw [List.dropWhile_append] at hfront
    split at hfront
    · -- only blanks so far: one character is too short for a bound and a space
      have hlength := hfront.length_le
      have hone : ([c].dropWhile Text.isBlank).length ≤ 1 := (List.dropWhile_suffix _).length_le
      have hpos := bound_length_pos bound hbound
      rw [List.length_append, List.length_singleton] at hlength
      omega
    · rcases List.prefix_concat_iff.mp hfront with heq | hfront
      · -- the space that would complete the bound is a cut
        obtain ⟨hword, hspace⟩ := List.append_inj' heq rfl
        have hchars : ∀ x ∈ bound.toList, Text.isBlank x = false := fun x hx =>
          (keyword_chars (List.mem_append_right _ hbound) hx).2
        have htrim : Text.trim cs = bound.toList := by
          rw [Text.trim, ← hword, Text.trimEnd_eq_self hchars]
        refine goesOn (List.singleton_inj.mp hspace).symm ?_
        rw [htrim, String.ofList_toList]
        exact hbound
      · exact h.noBound bound hbound hfront

/-- The three rules by which an expression is cut into tokens. -/
inductive Reads : List Char → List Token → Prop where
  /-- the last stretch -/
  | last {stretch : List Char} (uncut : Uncut stretch) : Reads stretch (ofStretch stretch)
  /-- a stretch up to a delimiter -/
  | delimiter {stretch : List Char} {c : Char} {cs : List Char} {ts : List Token}
      (uncut : Uncut stretch) (delimiter : c ∈ delimiters) (rest : Reads cs ts) :
      Reads (stretch ++ c :: cs) (ofStretch stretch ++ ofDelimiter c ++ ts)
  /-- a bound up to a space -/
  | bound {stretch : List Char} {cs : List Char} {ts : List Token} (uncut : Uncut stretch)
      (bound : String.ofList (Text.trim stretch) ∈ bounds) (rest : Reads cs ts) :
      Reads (stretch ++ ' ' :: cs) (.keyword (String.ofList (Text.trim stretch)) :: .space :: ts)

/-- **The scan follows the rules**, whatever stretch it has kept so far. -/
theorem reads_scan (cs : List Char) : ∀ before : List Char, Uncut before →
    Reads (before ++ cs) (scan before cs) := by
  induction cs with
  | nil =>
    intro before uncut
    rw [List.append_nil, scan]
    exact .last uncut
  | cons c cs ih =>
    intro before uncut
    rcases scan_cases before c with hdelimiter | ⟨rfl, hbound⟩ | ⟨hplain, hgo⟩
    · rw [scan_delimiter hdelimiter]
      exact .delimiter uncut hdelimiter (ih [] uncut_nil)
    · rw [scan_bound hbound]
      exact .bound uncut hbound (ih [] uncut_nil)
    · -- no cut: the character joins the stretch, and the stretch stays uncut
      rw [scan_other hplain hgo, List.append_cons]
      exact ih (before ++ [c]) (uncut.snoc hplain hgo)

/-- Without a delimiter or a space there is nothing to cut. -/
theorem scan_of_undivided (cs : List Char) : ∀ before : List Char,
    (∀ c ∈ cs, c ∉ delimiters ∧ c ≠ ' ') → scan before cs = ofStretch (before ++ cs) := by
  induction cs with
  | nil =>
    intro before _
    rw [List.append_nil, scan]
  | cons c cs ih =>
    intro before h
    obtain ⟨hplain, hspace⟩ := h c List.mem_cons_self
    rw [scan_other hplain (fun h => absurd h hspace),
      ih (before ++ [c]) (fun x hx => h x (List.mem_cons_of_mem c hx)), ← List.append_cons]

theorem scan_keyword {word : String} (h : word ∈ keywords) :
    scan [] word.toList = [.keyword word] := by
  have htrim : Text.trim word.toList = word.toList :=
    Text.trim_eq_self fun c hc => (keyword_chars h hc).2
  -- a keyword holds neither a delimiter nor a blank, so there is nothing to cut it
  have hundivided : ∀ c ∈ word.toList, c ∉ delimiters ∧ c ≠ ' ' := by
    intro c hc
    refine ⟨(keyword_chars h hc).1, ?_⟩
    rintro rfl
    exact absurd (keyword_chars h hc).2 (by decide)
  rw [scan_of_undivided _ [] hundivided, List.nil_append]
  rcases ofStretch_cases word.toList with ⟨hnil, -⟩ | ⟨-, hword⟩
  · rw [htrim] at hnil
    exact absurd (String.toList_eq_nil_iff.mp hnil) (keyword_ne_empty word h)
  · rw [hword, htrim, String.ofList_toList, ofWord_of_mem h]

/-- That a primitive is recognised at once changes nothing. -/
theorem tokens_eq_scan (expr : String) : tokens expr = scan [] expr.toList := by
  rw [tokens]
  split
  · -- a primitive is not scanned, and the scan would give the same
    rename_i hprimitive
    have hkeyword : expr ∈ keywords := List.mem_append_left _ ((isPrimitive_iff expr).mp hprimitive)
    rw [scan_keyword hkeyword]
  · rfl

/-- A keyword alone is one token, whether or not it goes through the scan. -/
theorem tokens_keyword {word : String} (h : word ∈ keywords) : tokens word = [.keyword word] := by
  rw [tokens_eq_scan, scan_keyword h]

/-- Every expression is read by the rules. -/
theorem reads_tokens (expr : String) : Reads expr.toList (tokens expr) := by
  rw [tokens_eq_scan]
  exact reads_scan expr.toList [] uncut_nil

/-! ## What tokens look like

  Two properties, each proved along the rules: one of every token alone, and one of neighbours. -/

/-- A word that can be looked up. -/
structure IsIdentifier (word : String) : Prop where
  nonempty : word ≠ ""
  first : ∀ c, word.toList.head? = some c → Text.isBlank c = false
  last : ∀ c, word.toList.getLast? = some c → Text.isBlank c = false
  noDelimiter : ∀ c ∈ word.toList, c ∉ delimiters
  notPrimitive : word ∉ primitives
  notBound : word ∉ bounds
  /-- it does not begin with a bound and a space -/
  noBound : ∀ bound ∈ bounds, ¬ bound.toList ++ [' '] <+: word.toList

/-- The token is of its kind. -/
def WellFormed : Token → Prop
  | .delimiter c => c ∈ delimiters
  | .keyword word => word ∈ primitives ∨ word ∈ bounds
  | .identifier word => IsIdentifier word
  | .space => True

/-- **An uncut stretch gives a well-formed token**, or none.  What the stretch lacks, its trimmed
    form lacks as well. -/
theorem wellFormed_ofStretch {cs : List Char} (uncut : Uncut cs) :
    ∀ t ∈ ofStretch cs, t.WellFormed := by
  intro t ht
  rcases ofStretch_cases cs with ⟨-, hnone⟩ | ⟨hne, hone⟩
  · rw [hnone] at ht
    cases ht
  · rw [hone, List.mem_singleton] at ht
    subst ht
    by_cases hkeyword : String.ofList (Text.trim cs) ∈ keywords
    · rw [ofWord_of_mem hkeyword]
      exact List.mem_append.mp hkeyword
    · rw [ofWord_of_not_mem hkeyword]
      -- the fields of `IsIdentifier`, in their order
      refine ⟨?_, ?_, ?_, ?_, ?_, ?_, ?_⟩
      · exact fun hempty => hne (String.ofList_eq_empty_iff.mp hempty)
      · intro c hc
        rw [String.toList_ofList] at hc
        exact Text.not_blank_of_head?_trim hc
      · intro c hc
        rw [String.toList_ofList] at hc
        exact Text.not_blank_of_getLast?_trim hc
      · intro c hc hdelimiter
        rw [String.toList_ofList] at hc
        exact uncut.noDelimiter c (Text.mem_of_mem_trim hc) hdelimiter
      · exact fun hprimitive => hkeyword (List.mem_append_left _ hprimitive)
      · exact fun hbound => hkeyword (List.mem_append_right _ hbound)
      · intro bound hbound hfront
        rw [String.toList_ofList] at hfront
        exact uncut.noBound bound hbound (hfront.trans (Text.trim_front cs))

/-- A delimiter, with the space behind it if it is a comma. -/
theorem wellFormed_ofDelimiter {c : Char} (h : c ∈ delimiters) :
    ∀ t ∈ ofDelimiter c, t.WellFormed := by
  intro t ht
  rw [ofDelimiter] at ht
  split at ht
  · rcases List.mem_cons.mp ht with rfl | ht
    · exact h
    · rw [List.mem_singleton.mp ht]
      trivial
  · rw [List.mem_singleton.mp ht]
    exact h

/-- Whatever is read, its tokens are well formed. -/
theorem Reads.wellFormed {cs : List Char} {ts : List Token} (h : Reads cs ts) :
    ∀ t ∈ ts, t.WellFormed := by
  induction h with
  | last uncut => exact wellFormed_ofStretch uncut
  | delimiter uncut hdelimiter _ ih =>
    intro t ht
    rw [List.append_assoc, List.mem_append, List.mem_append] at ht
    rcases ht with ht | ht | ht
    · exact wellFormed_ofStretch uncut t ht
    · exact wellFormed_ofDelimiter hdelimiter t ht
    · exact ih t ht
  | bound uncut hbound _ ih =>
    intro t ht
    rcases List.mem_cons.mp ht with rfl | ht
    · exact .inr hbound
    · rcases List.mem_cons.mp ht with rfl | ht
      · trivial
      · exact ih t ht

/-- A token behind which a space may stand. -/
def TakesSpace (t : Token) : Prop := t = .delimiter ',' ∨ ∃ word ∈ bounds, t = .keyword word

/-- A space stands behind every comma, and nowhere else but behind a bound. -/
inductive Spaced : List Token → Prop where
  | nil : Spaced []
  | tight {t : Token} {ts : List Token} (noComma : t ≠ .delimiter ',') (noSpace : t ≠ .space)
      (rest : Spaced ts) : Spaced (t :: ts)
  | spaced {t : Token} {ts : List Token} (takes : t.TakesSpace) (rest : Spaced ts) :
      Spaced (t :: .space :: ts)

/-- Where the one list ends between two tokens, the other may follow. -/
theorem Spaced.append {ts us : List Token} (hts : Spaced ts) (hus : Spaced us) :
    Spaced (ts ++ us) := by
  induction hts with
  | nil => exact hus
  | tight noComma noSpace _ ih => exact .tight noComma noSpace ih
  | spaced takes _ ih => exact .spaced takes ih

/-- A word neither is a comma nor has a space. -/
theorem spaced_ofStretch (cs : List Char) : Spaced (ofStretch cs) := by
  rcases ofStretch_cases cs with ⟨-, hnone⟩ | ⟨-, hone⟩
  · rw [hnone]
    exact .nil
  · rw [hone, ofWord]
    split
    · exact .tight nofun nofun .nil
    · exact .tight nofun nofun .nil

/-- A comma comes with its space, and the other delimiters come without. -/
theorem spaced_ofDelimiter (c : Char) : Spaced (ofDelimiter c) := by
  rw [ofDelimiter]
  split
  · rename_i hcomma
    subst hcomma
    exact .spaced (.inl rfl) .nil
  · rename_i hother
    refine .tight (fun h => hother ?_) nofun .nil
    cases h
    rfl

/-- Whatever is read, its spaces stand where they belong. -/
theorem Reads.spaced {cs : List Char} {ts : List Token} (h : Reads cs ts) : Spaced ts := by
  induction h with
  | last uncut => exact spaced_ofStretch _
  | delimiter uncut hdelimiter _ ih =>
    exact ((spaced_ofStretch _).append (spaced_ofDelimiter _)).append ih
  | bound uncut hbound _ ih => exact .spaced (.inr ⟨_, hbound, rfl⟩) ih

/-- In terms of places: behind a comma the next token is a space. -/
theorem Spaced.space_behind_comma {ts : List Token} (h : Spaced ts) : ∀ i : Nat,
    ts[i]? = some (.delimiter ',') → ts[i + 1]? = some .space := by
  induction h with
  | nil =>
    intro i hi
    cases hi
  | tight noComma _ _ ih =>
    intro i hi
    cases i with
    | zero => exact absurd (Option.some.inj hi) noComma
    | succ i => exact ih i hi
  | spaced _ _ ih =>
    intro i hi
    match i with
    | 0 => rfl
    | 1 => cases hi
    | i + 2 => exact ih i hi

/-- In terms of places: no space comes first, and what stands before it is a comma or a bound. -/
theorem Spaced.before_space {ts : List Token} (h : Spaced ts) : ∀ i : Nat,
    ts[i]? = some .space → ∃ j t, i = j + 1 ∧ ts[j]? = some t ∧ t.TakesSpace := by
  induction h with
  | nil =>
    intro i hi
    cases hi
  | tight _ noSpace _ ih =>
    intro i hi
    cases i with
    | zero => exact absurd (Option.some.inj hi) noSpace
    | succ i =>
      obtain ⟨j, t, hj, ht, htakes⟩ := ih i hi
      exact ⟨j + 1, t, by omega, ht, htakes⟩
  | @spaced t _ takes _ ih =>
    intro i hi
    match i with
    | 0 =>
      -- what takes a space is no space
      have hspace : t = .space := Option.some.inj hi
      rcases takes with rfl | ⟨word, -, rfl⟩
      · cases hspace
      · cases hspace
    | 1 => exact ⟨0, t, rfl, rfl, takes⟩
    | i + 2 =>
      obtain ⟨j, u, hj, hu, htakes⟩ := ih i hi
      exact ⟨j + 2, u, by omega, hu, htakes⟩

/-! ## Nothing is lost

  The expression and what is shown differ in blanks, so their ink is compared.  Each rule cuts the
  expression in places where ink is counted part by part. -/

/-- The texts of the tokens, one after the other. -/
def spelled (ts : List Token) : List Char := ts.flatMap (·.text.toList)

theorem toList_join_text (ts : List Token) : (String.join (ts.map text)).toList = spelled ts := by
  rw [String.toList_join, List.flatMap_map]
  rfl

@[simp] theorem spelled_append (ts us : List Token) :
    spelled (ts ++ us) = spelled ts ++ spelled us :=
  List.flatMap_append

theorem spelled_cons (t : Token) (ts : List Token) :
    spelled (t :: ts) = t.text.toList ++ spelled ts :=
  List.flatMap_cons

/-- A stretch is shown without the blanks around it, and with those inside. -/
theorem spelled_ofStretch (cs : List Char) : spelled (ofStretch cs) = Text.trim cs := by
  rcases ofStretch_cases cs with ⟨hnil, hnone⟩ | ⟨-, hone⟩
  · rw [hnone, hnil]
    rfl
  · rw [hone, spelled_cons, text_ofWord, String.toList_ofList]
    exact List.append_nil _

/-- A delimiter is shown as itself, and the space behind a comma is no ink. -/
theorem ink_spelled_ofDelimiter (c : Char) : Text.ink (spelled (ofDelimiter c)) = Text.ink [c] := by
  rw [ofDelimiter]
  split
  · rename_i hcomma
    subst hcomma
    decide
  · rw [spelled_cons, text, String.toList_singleton]
    rfl

/-- Tokens and expression have the same ink. -/
theorem Reads.ink_spelled {cs : List Char} {ts : List Token} (h : Reads cs ts) :
    Text.ink (spelled ts) = Text.ink cs := by
  induction h with
  | last uncut => rw [spelled_ofStretch, Text.ink_trim]
  | @delimiter stretch c cs ts uncut hdelimiter _ ih =>
    calc Text.ink (spelled (ofStretch stretch ++ ofDelimiter c ++ ts))
        = Text.ink stretch ++ Text.ink [c] ++ Text.ink cs := by
          rw [spelled_append, spelled_append, Text.ink_append, Text.ink_append, spelled_ofStretch,
            Text.ink_trim, ink_spelled_ofDelimiter, ih]
      _ = Text.ink (stretch ++ c :: cs) := by
          rw [List.append_cons, Text.ink_append, Text.ink_append]
  | @bound stretch cs ts uncut hbound _ ih =>
    -- the space behind the bound is no ink, in the expression or among the tokens
    have hspace : ∀ ds : List Char, Text.ink (' ' :: ds) = Text.ink ds :=
      Text.ink_cons_of_blank (by decide)
    calc Text.ink (spelled (.keyword (String.ofList (Text.trim stretch)) :: .space :: ts))
        = Text.ink (Text.trim stretch ++ ' ' :: spelled ts) := by
          rw [spelled_cons, spelled_cons, text, text, String.toList_ofList]
          rfl
      _ = Text.ink stretch ++ Text.ink cs := by
          rw [Text.ink_append, Text.ink_trim, hspace, ih]
      _ = Text.ink (stretch ++ ' ' :: cs) := by
          rw [Text.ink_append, hspace]

/-! ## Delimiters

  A consequence of the two: the ink is the same, and of the tokens only the delimiters hold
  delimiters. -/

/-- The character of a delimiter. -/
def delimiter? : Token → Option Char
  | .delimiter c => some c
  | _ => none

/-- No token but a delimiter holds a delimiter. -/
theorem filter_isDelimiter_text {t : Token} (h : t.WellFormed) :
    t.text.toList.filter isDelimiter = t.delimiter?.toList := by
  cases t with
  | delimiter c =>
    rw [text, String.toList_singleton, List.filter_cons_of_pos ((isDelimiter_iff c).mpr h)]
    rfl
  | keyword word =>
    have hkeyword : word ∈ keywords := List.mem_append.mpr h
    refine List.filter_eq_nil_iff.mpr fun c hc hdelimiter => ?_
    exact (keyword_chars hkeyword hc).1 ((isDelimiter_iff c).mp hdelimiter)
  | identifier word =>
    refine List.filter_eq_nil_iff.mpr fun c hc hdelimiter => ?_
    exact h.noDelimiter c hc ((isDelimiter_iff c).mp hdelimiter)
  | space => decide

/-- The delimiters of the shown tokens are the tokens that are delimiters. -/
theorem filter_isDelimiter_spelled {ts : List Token} (h : ∀ t ∈ ts, t.WellFormed) :
    (spelled ts).filter isDelimiter = ts.filterMap delimiter? := by
  induction ts with
  | nil => rfl
  | cons t ts ih =>
    rw [spelled_cons, List.filter_append, filter_isDelimiter_text (h t List.mem_cons_self),
      ih fun u hu => h u (List.mem_cons_of_mem t hu), List.filterMap_cons]
    cases t.delimiter? with
    | none => rfl
    | some c => rfl

/-- Delimiters are ink. -/
theorem filter_isDelimiter_ink (cs : List Char) :
    (Text.ink cs).filter isDelimiter = cs.filter isDelimiter := by
  rw [Text.ink, List.filter_filter]
  refine List.filter_congr fun c _ => ?_
  by_cases h : isDelimiter c = true
  · rw [h, not_blank_of_mem_delimiters ((isDelimiter_iff c).mp h)]
    rfl
  · rw [Bool.eq_false_iff.mpr h, Bool.false_and]

/-- **Tokens spell the expression.**  Whatever the expression:

    * the texts of its tokens are the expression again, up to blanks;
    * every token is of its kind;
    * a space stands behind every comma, and every space behind a comma or a bound;
    * the delimiters among the tokens are those of the expression, in order. -/
theorem tokens_spell_expression (expr : String) :
    Text.ink (String.join ((tokens expr).map text)).toList = Text.ink expr.toList ∧
    (∀ t ∈ tokens expr, t.WellFormed) ∧
    (∀ i, (tokens expr)[i]? = some (.delimiter ',') → (tokens expr)[i + 1]? = some .space) ∧
    (∀ i, (tokens expr)[i]? = some .space →
      ∃ j t, i = j + 1 ∧ (tokens expr)[j]? = some t ∧ t.TakesSpace) ∧
    (tokens expr).filterMap delimiter? = expr.toList.filter isDelimiter := by
  have h := reads_tokens expr
  have hink : Text.ink (spelled (tokens expr)) = Text.ink expr.toList := h.ink_spelled
  refine ⟨?_, h.wellFormed, h.spaced.space_behind_comma, h.spaced.before_space, ?_⟩
  · rw [toList_join_text]
    exact hink
  · rw [← filter_isDelimiter_spelled h.wellFormed, ← filter_isDelimiter_ink, hink,
      filter_isDelimiter_ink]

-- a bound is split off at the front of a stretch only, and no other blank is a space
example : tokens "Map<extends A ,? super\tint>" =
    [.identifier "Map", .delimiter '<', .keyword "extends", .space, .identifier "A",
      .delimiter ',', .space, .identifier "? super\tint", .delimiter '>'] := by decide

end Token
end DocIndex
