/-
  WHAT IS MARKED.

  Occurrences are searched in the folded text, marks are cut out of the text, and the two are tied by
  byte offsets only.  Two things can go wrong there: an offset may be no place of the text, and an
  occurrence may begin inside the last character of a mark, where it cannot be marked any more.

  1. **Searching** (`Found`) — the search finds the first occurrence, then the first one behind it, and so
     on.  All that follows is an induction on `Found` and does not open the search again.

  2. **Whole characters** (`around?_of_occurrence`) — every occurrence leads back to a front of the text
     and to the characters behind it that cover the occurrence, no more and no fewer.

  3. **The crux** (`layout_of_found`) — the cuts are never refused, and what they give is a `Layout`, where
     no offsets are left.  The next mark covers the first occurrence behind the last mark that is not
     `Hidden`; an occurrence is hidden if one that begins in the last mark reaches into it.  The
     invariant of the search is `Searching`: behind a mark, nothing has been searched yet or one
     occurrence was passed over, the one that begins in the mark.  There is no third case because a
     character folds to two at most.

  Offsets count bytes of the folded text on the one side and bytes of the text on the other, and the
  two differ wherever folding changes the number of bytes.  The statements therefore speak of fronts
  and of what stands behind them, and of offsets only as the byte lengths of fronts.
-/
import DocIndex.Markup.Highlight
import DocIndex.Proofs.Text.Folding

namespace DocIndex.Markup

open Text

/-! ## Searching

  The program walks along the text and counts down the characters of the last occurrence.  `Found`
  says what comes of it: the text in front of the next occurrence, the occurrence, and the search
  in what stands behind. -/

/-- The places of a needle in a text, as they are found from left to right. -/
inductive Found (needle : List Char) : Nat → List Char → List Nat → Prop where
  /-- there is none -/
  | none {start : Nat} {hay : List Char} (absent : ¬ needle <:+: hay) : Found needle start hay []
  /-- the first one, and those behind it -/
  | next {start : Nat} {before behind : List Char} {places : List Nat}
      (first : ∀ a b, before ++ needle ++ behind = a ++ needle ++ b → before.length ≤ a.length)
      (rest : Found needle (start + byteLength (before ++ needle)) behind places) :
      Found needle start (before ++ needle ++ behind) ((start + byteLength before) :: places)

/-- The characters of an occurrence are passed over. -/
theorem occurrences_skip (needle : List Char) (skip start : Nat) (cs : List Char) :
    occurrences needle start skip cs =
      occurrences needle (start + byteLength (cs.take skip)) 0 (cs.drop skip) := by
  induction skip generalizing start cs with
  | zero => rfl
  | succ skip ih =>
    cases cs with
    | nil => rfl
    | cons c cs =>
      rw [occurrences, ih, List.take_succ_cons, List.drop_succ_cons, byteLength_cons, Nat.add_assoc]

/-- Where the needle begins, its place is noted and the search goes on behind it. -/
theorem occurrences_of_front {needle : List Char} (hne : needle ≠ []) (start : Nat)
    (behind : List Char) : occurrences needle start 0 (needle ++ behind) =
      start :: occurrences needle (start + byteLength needle) 0 behind := by
  obtain ⟨c, cs, rfl⟩ := List.exists_cons_of_ne_nil hne
  have hfront : (c :: cs).isPrefixOf (c :: (cs ++ behind)) = true :=
    List.isPrefixOf_iff_prefix.mpr ⟨behind, rfl⟩
  rw [List.cons_append, occurrences, if_pos hfront, List.length_cons, Nat.add_sub_cancel,
    occurrences_skip, List.take_left, List.drop_left, byteLength_cons, Nat.add_assoc]

/-- Where it does not begin, the search goes on at the next character. -/
theorem occurrences_of_not_front {needle : List Char} {c : Char} {cs : List Char}
    (h : ¬ needle <+: c :: cs) (start : Nat) :
    occurrences needle start 0 (c :: cs) = occurrences needle (start + c.utf8Size) 0 cs := by
  have hfront : ¬ needle.isPrefixOf (c :: cs) = true :=
    fun hfront => h (List.isPrefixOf_iff_prefix.mp hfront)
  rw [occurrences, if_neg hfront]

/-- The search may begin one character earlier, if nothing begins there. -/
theorem Found.cons {needle : List Char} {c : Char} {cs : List Char} {start : Nat} {places : List Nat}
    (hfound : Found needle (start + c.utf8Size) cs places) (hfront : ¬ needle <+: c :: cs) :
    Found needle start (c :: cs) places := by
  cases hfound with
  -- nothing is found later, and nothing begins here
  | none absent =>
    refine .none fun hinfix => ?_
    rcases List.infix_cons_iff.mp hinfix with h | h
    · exact hfront h
    · exact absent h
  -- the first occurrence is the same, one character further away
  | @next _ before behind places first rest =>
    have hplace : start + c.utf8Size + byteLength before = start + byteLength (c :: before) := by
      rw [byteLength_cons, Nat.add_assoc]
    have hstart : start + c.utf8Size + byteLength (before ++ needle) =
        start + byteLength (c :: before ++ needle) := by
      rw [List.cons_append, byteLength_cons, Nat.add_assoc]
    rw [hstart] at rest
    rw [hplace]
    refine @Found.next needle start (c :: before) behind places (fun a b heq => ?_) rest
    cases a with
    | nil => exact absurd ⟨b, heq.symm⟩ hfront
    | cons d a =>
      have hlength := first a b (List.cons.inj heq).2
      rw [List.length_cons, List.length_cons]
      omega

/-- **The search finds what it should.** The only place where the search itself is opened. -/
theorem found_occurrences {needle : List Char} (hne : needle ≠ []) (start : Nat) (hay : List Char) :
    Found needle start hay (occurrences needle start 0 hay) := by
  -- an occurrence takes more than one character, so the induction is on the length
  induction hlength : hay.length using Nat.strongRecOn generalizing start hay with
  | ind length ih =>
    subst hlength
    by_cases hfront : needle <+: hay
    · -- an occurrence begins here
      obtain ⟨behind, rfl⟩ := hfront
      have hshorter : behind.length < (needle ++ behind).length := by
        have hpos := List.length_pos_iff.mpr hne
        rw [List.length_append]
        omega
      rw [occurrences_of_front hne]
      exact @Found.next needle start [] behind _ (fun a b _ => Nat.zero_le _)
        (ih _ hshorter _ behind rfl)
    · cases hay with
      | nil => exact .none fun hinfix => hne (List.infix_nil.mp hinfix)
      | cons c cs =>
        rw [occurrences_of_not_front hfront]
        exact (ih cs.length (Nat.lt_succ_self _) _ cs rfl).cons hfront

/-! ## Whole characters

  An occurrence begins and ends in the folded text, perhaps inside of what one character folds to.
  The two characters that its ends came from are looked up by `fold_eq_append_cons`; all from the
  one to the other is the mark. -/

/-- The characters of the mark fold to the needle, but for `x` in front of it and `y` behind it, which are
    less than the first and the last character fold to. -/
structure Covers (needle x mark y : List Char) : Prop where
  folds : fold mark = x ++ needle ++ y
  first : ∃ c cs, mark = c :: cs ∧ x.length < (lower c).length
  last : ∃ cs c, mark = cs ++ [c] ∧ y.length < (lower c).length

theorem Covers.ne_nil {needle x mark y : List Char} (h : Covers needle x mark y) : mark ≠ [] := by
  obtain ⟨c, cs, rfl, -⟩ := h.first
  exact List.cons_ne_nil c cs

theorem Covers.holds {needle x mark y : List Char} (h : Covers needle x mark y) :
    needle <:+: fold mark := ⟨x, y, h.folds.symm⟩

/-- At most one folded character of a mark lies behind the needle.  This bound is why one
    occurrence, and no more, can be passed over behind a mark. -/
theorem Covers.length_le {needle x mark y : List Char} (h : Covers needle x mark y) :
    y.length ≤ 1 := by
  obtain ⟨-, c, -, hlast⟩ := h.last
  have htwo := length_lower_le c
  omega

/-- If one folded character stands before another, or is the same, so does the one it came from. -/
theorem front_le_of_origins {front back front' back' x x' y' : List Char} {c c' d : Char}
    (heq : front ++ c :: back = front' ++ c' :: back') (hlower : lower c' = x' ++ d :: y')
    (hle : (fold front ++ x).length ≤ (fold front' ++ x').length) :
    ∃ between, front' = front ++ between ∧ c :: back = between ++ c' :: back' := by
  rcases List.append_eq_append_iff.mp heq with h | ⟨between, hfront, hback⟩
  · exact h
  · cases between with
    | nil => exact ⟨[], by simpa using hfront.symm, by simpa using hback.symm⟩
    | cons e between =>
      -- then all that the later character folds to stands before the earlier one
      obtain ⟨rfl, -⟩ := List.cons.inj hback
      have hlength : (fold front).length =
          (fold front').length + ((lower c').length + (fold between).length) := by
        rw [hfront, fold_append, fold_cons, List.length_append, List.length_append]
      have hwithin : (lower c').length = x'.length + (y'.length + 1) := by
        rw [hlower, List.length_append, List.length_cons]
      rw [List.length_append, List.length_append] at hle
      omega

/-- The characters from `c` to `c'` cover the needle if it begins in what `c` folds to and ends in what
    `c'` folds to. -/
theorem covers_of_ends {needle front between back back' x y x' y' : List Char} {c c' d e : Char}
    (hcut : c :: back = between ++ c' :: back') (hfirst : lower c = x ++ d :: y)
    (hlast : lower c' = x' ++ e :: y')
    (hfold : fold (front ++ (between ++ [c']) ++ back') =
      fold front ++ x ++ needle ++ (y' ++ fold back')) :
    Covers needle x (between ++ [c']) y' where
  folds := by
    rw [fold_append, fold_append, List.append_assoc, List.append_assoc (fold front),
      List.append_assoc (fold front), ← List.append_assoc (x ++ needle)] at hfold
    exact List.append_cancel_right (List.append_cancel_left hfold)
  first := by
    have hlength : x.length < (lower c).length := by
      rw [hfirst, List.length_append, List.length_cons]
      omega
    -- the first character of the mark may be its last as well
    cases between with
    | nil =>
      obtain ⟨rfl, -⟩ := List.cons.inj hcut
      exact ⟨c, [], rfl, hlength⟩
    | cons _ between =>
      obtain ⟨rfl, -⟩ := List.cons.inj hcut
      exact ⟨c, between ++ [c'], rfl, hlength⟩
  last := by
    refine ⟨between, c', rfl, ?_⟩
    rw [hlast, List.length_append, List.length_cons]
    omega

/-- The span of an occurrence ends behind the character that its last byte came from. -/
theorem around?_of_origins {text front front' back' : List Char} {c' : Char} {origins : List Nat}
    {length place : Nat} (htext : text = front' ++ c' :: back')
    (hfirst : origins[place]? = some (byteLength front))
    (hlast : origins[place + length - 1]? = some (byteLength front')) :
    Span.around? text origins length place =
      some ⟨byteLength front, byteLength (front' ++ [c'])⟩ := by
  have hsplit : splitBytes? (byteLength front') text = some (front', c' :: back') :=
    (splitBytes?_eq_some_iff ..).mpr ⟨htext, rfl⟩
  unfold Span.around?
  rw [hfirst, hlast]
  simp [hsplit]

/-- An occurrence in the folded text leads back to the characters that cover it. -/
theorem around?_of_occurrence {needle text a b : List Char} (hne : needle ≠ [])
    (hfold : fold text = a ++ needle ++ b) :
    ∃ front mark back x y, text = front ++ mark ++ back ∧ a = fold front ++ x ∧ b = y ++ fold back ∧
      Covers needle x mark y ∧
      Span.around? text (foldWithOrigins 0 text).origins (byteLength needle) (byteLength a) =
        some ⟨byteLength front, byteLength (front ++ mark)⟩ := by
  obtain ⟨d, ds, hhead⟩ := List.exists_cons_of_ne_nil hne
  obtain ⟨es, e, hend⟩ := List.eq_nil_or_concat needle |>.resolve_left hne
  -- the characters that the first and the last character of the needle came from
  have hbegins : fold text = a ++ d :: (ds ++ b) := by
    rw [hfold, hhead, List.append_assoc]
    rfl
  have hends : fold text = (a ++ es) ++ e :: b := by
    rw [hfold, hend]
    simp
  obtain ⟨front, c, back, x, y, htext, hlower, ha, -⟩ := fold_eq_append_cons hbegins
  obtain ⟨front', c', back', x', y', htext', hlower', ha', hb'⟩ := fold_eq_append_cons hends
  -- the needle does not end before it begins, so its characters come in that order
  have hle : (fold front ++ x).length ≤ (fold front' ++ x').length := by
    rw [← ha, ← ha', List.length_append]
    omega
  obtain ⟨between, hfront, hback⟩ := front_le_of_origins (htext.symm.trans htext') hlower' hle
  have hcut : text = front ++ (between ++ [c']) ++ back' := by
    rw [htext', hfront]
    simp
  -- the first byte of the first character, the last byte of the last one
  have hfirst : (foldWithOrigins 0 text).origins[byteLength a]? = some (byteLength front) := by
    have h := origins_getElem? 0 front back hlower d.utf8Size_pos
    rw [← htext, ← ha, Nat.add_zero, Nat.zero_add] at h
    exact h
  have hlast : (foldWithOrigins 0 text).origins[byteLength a + byteLength needle - 1]? =
      some (byteLength front') := by
    have hpos := e.utf8Size_pos
    have h := origins_getElem? 0 front' back' (k := e.utf8Size - 1) hlower' (by omega)
    rw [← htext', ← ha', Nat.zero_add] at h
    rw [← h, hend]
    congr 1
    simp only [List.concat_eq_append, byteLength_append, byteLength_cons, byteLength_nil]
    omega
  refine ⟨front, between ++ [c'], back', x, y', hcut, ha, hb', ?_, ?_⟩
  · rw [hcut, ha, hb'] at hfold
    exact covers_of_ends hback hlower hlower' hfold
  · rw [around?_of_origins htext' hfirst hlast, hfront, List.append_assoc]

/-! ## One step of marking

  The three things that can happen at a place, each with the cuts that are made there.  All of them
  are cuts at places of the text, so none is refused. -/

section Steps

variable {text : List Char} {origins : List Nat} {length place : Nat} {places : List Nat}

/-- When no place is left, the rest of the text is the last stretch. -/
theorem mark?_nil {done rest : List Char} (htext : text = done ++ rest) :
    mark? text origins length (byteLength done) [] = some [.plain rest] := by
  have hslice : slice? (byteLength done) (byteLength text) text = some rest :=
    (slice?_eq_some_iff ..).mpr ⟨done, [], by simpa using htext, rfl, by rw [htext]⟩
  rw [mark?, hslice]
  rfl

/-- An occurrence that begins before the end of the last mark is passed over. -/
theorem mark?_of_lt {done : Nat} {span : Span}
    (haround : Span.around? text origins length place = some span) (hlt : span.start < done) :
    mark? text origins length done (place :: places) = mark? text origins length done places := by
  rw [mark?, haround]
  exact if_pos hlt

/-- Any other occurrence is marked. -/
theorem mark?_of_le {done gap mark rest : List Char} {ps : List Piece}
    (htext : text = done ++ gap ++ mark ++ rest)
    (haround : Span.around? text origins length place =
      some ⟨byteLength (done ++ gap), byteLength (done ++ gap ++ mark)⟩)
    (hrest : mark? text origins length (byteLength (done ++ gap ++ mark)) places = some ps) :
    mark? text origins length (byteLength done) (place :: places) =
      some (.plain gap :: .marked mark :: ps) := by
  have hkept : ¬ byteLength (done ++ gap) < byteLength done := by
    rw [byteLength_append]
    omega
  -- both cuts are between places of the text
  have hgap : slice? (byteLength done) (byteLength (done ++ gap)) text = some gap :=
    (slice?_eq_some_iff ..).mpr ⟨done, mark ++ rest, by simp [htext], rfl, rfl⟩
  have hmark : slice? (byteLength (done ++ gap)) (byteLength (done ++ gap ++ mark)) text =
      some mark := (slice?_eq_some_iff ..).mpr ⟨done ++ gap, rest, htext, rfl, rfl⟩
  rw [mark?, haround]
  show (if byteLength (done ++ gap) < byteLength done then _ else _) = _
  rw [if_neg hkept, hgap, hmark]
  show (mark? text origins length (byteLength (done ++ gap ++ mark)) places).bind _ = _
  rw [hrest]
  rfl

end Steps

/-! ## The layout of marks

  `Layout` says without offsets what the marks are, and `Searching` is what holds while they are
  made.  Between the two stands one question: when does the search lose an occurrence?  It searches
  in the folded text, where the rest of a mark may still hold the beginning of one. -/

/-- An occurrence of the needle `i` characters behind the last mark cannot be seen: `tail` is what the
    mark's last character folds to beyond what was found there, the needle occurs from there on, and it
    reaches beyond `i`. -/
def Hidden (needle tail rest : List Char) (i : Nat) : Prop :=
  tail ≠ [] ∧ needle <+: tail ++ fold rest ∧ tail.length + i < needle.length

/-- How the text behind a mark is marked. -/
inductive Layout (needle : List Char) : List Char → List Char → List Piece → Prop where
  /-- all occurrences are hidden -/
  | last {tail rest : List Char}
      (hidden : ∀ a b, fold rest = a ++ needle ++ b → Hidden needle tail rest a.length) :
      Layout needle tail rest [.plain rest]
  /-- the mark covers the first one that is not -/
  | mark {tail gap mark rest x y : List Char} {ps : List Piece} (covers : Covers needle x mark y)
      (hidden : ∀ a b, fold (gap ++ mark ++ rest) = a ++ needle ++ b →
        a.length < (fold gap ++ x).length → Hidden needle tail (gap ++ mark ++ rest) a.length)
      (shown : ¬ Hidden needle tail (gap ++ mark ++ rest) (fold gap ++ x).length)
      (behind : Layout needle y rest ps) :
      Layout needle tail (gap ++ mark ++ rest) (.plain gap :: .marked mark :: ps)

/-- The search between two marks: the text is marked up to the end of `done`, and `hay` is the folded
    text in which is still to be searched.  The part `searched` has been passed over since the mark. -/
structure Searching (needle text done rest front tail searched hay : List Char) : Prop where
  split : text = done ++ rest
  folds : fold done = front ++ tail
  short : tail.length ≤ 1
  ahead : tail ++ fold rest = searched ++ hay
  passed : searched = [] ∨ tail ≠ [] ∧ searched = needle

section Search

variable {needle text done rest front tail searched hay : List Char}

/-- The folded text is what was found, what was passed over since, and what is still ahead. -/
theorem Searching.fold_text (h : Searching needle text done rest front tail searched hay) :
    fold text = front ++ searched ++ hay := by
  rw [h.split, fold_append, h.folds, List.append_assoc, h.ahead, List.append_assoc]

/-- An occurrence behind the mark begins in what was passed over, and then it is hidden, or it is
    still to be found. -/
theorem Searching.hidden_or_ahead (h : Searching needle text done rest front tail searched hay)
    {a b : List Char} (hoccurs : fold rest = a ++ needle ++ b) :
    Hidden needle tail rest a.length ∨
      ∃ a', tail ++ a = searched ++ a' ∧ hay = a' ++ needle ++ b := by
  have hahead : searched ++ hay = tail ++ a ++ (needle ++ b) := by
    rw [← h.ahead, hoccurs]
    simp only [List.append_assoc]
  by_cases hpassed : (tail ++ a).length < searched.length
  · rcases h.passed with rfl | ⟨htail, rfl⟩
    · exact absurd hpassed (Nat.not_lt_zero _)
    · rw [List.length_append] at hpassed
      exact .inl ⟨htail, ⟨hay, h.ahead.symm⟩, hpassed⟩
  · -- it begins behind what was passed over
    have hfront : searched <+: tail ++ a :=
      List.prefix_of_prefix_length_le ⟨hay, hahead⟩ ⟨needle ++ b, rfl⟩ (by omega)
    obtain ⟨a', ha⟩ := hfront
    refine .inr ⟨a', ha.symm, ?_⟩
    rw [← ha, List.append_assoc] at hahead
    rw [List.append_cancel_left hahead, List.append_assoc]

/-- The search begins anew behind a mark. -/
theorem Searching.start {mark x y back : List Char} (hcovers : Covers needle x mark y)
    (hay : List Char) (hhay : hay = y ++ fold back) (htext : text = done ++ mark ++ back) :
    Searching needle text (done ++ mark) back (fold done ++ x ++ needle) y [] hay where
  split := htext
  folds := by
    rw [fold_append, hcovers.folds]
    simp only [List.append_assoc]
  short := hcovers.length_le
  ahead := hhay.symm
  passed := .inl rfl

variable {mark x y back behind before : List Char}

/-- An occurrence begins before the end of the last mark if it begins in the tail. -/
theorem Searching.lt_iff {front' : List Char}
    (h : Searching needle text done rest front tail searched (before ++ needle ++ behind))
    (htext : text = front' ++ mark ++ back) (hfront : front ++ searched ++ before = fold front' ++ x)
    (hcovers : Covers needle x mark y) :
    byteLength front' < byteLength done ↔ (searched ++ before).length < tail.length := by
  have hlength := congrArg List.length hfront
  have hdone := congrArg List.length h.folds
  simp only [List.length_append] at hlength hdone ⊢
  have heq : front' ++ (mark ++ back) = done ++ rest := by
    rw [← h.split, htext, List.append_assoc]
  constructor
  · -- the mark begins inside of what is done, so its first character is there as a whole
    intro hlt
    obtain ⟨between, hbetween, hmark⟩ := front_of_byteLength_le heq (Nat.le_of_lt hlt)
    cases between with
    | nil =>
      rw [hbetween, List.append_nil] at hlt
      omega
    | cons e between =>
      obtain ⟨c, cs, rfl, hfirst⟩ := hcovers.first
      obtain ⟨rfl, -⟩ := List.cons.inj hmark
      rw [hbetween, fold_append, fold_cons, List.length_append, List.length_append] at hdone
      omega
  · intro hlt
    -- otherwise all that is done lies in front of it
    refine Nat.lt_of_not_le fun hle => ?_
    obtain ⟨between, hbetween, -⟩ := front_of_byteLength_le heq.symm hle
    rw [hbetween, fold_append, List.length_append] at hlength
    omega

/-- One that begins in the tail is passed over, and nothing was passed over before it: the tail is one
    character. -/
theorem Searching.pass (h : Searching needle text done rest front tail searched
      (before ++ needle ++ behind)) (hlt : (searched ++ before).length < tail.length) :
    searched = [] ∧ before = [] ∧ Searching needle text done rest front tail needle behind := by
  have hshort := h.short
  have hnil : searched ++ before = [] := List.eq_nil_of_length_eq_zero (by omega)
  obtain ⟨rfl, rfl⟩ := List.append_eq_nil_iff.mp hnil
  have htail : tail ≠ [] := List.length_pos_iff.mp hlt
  exact ⟨rfl, rfl, { h with ahead := h.ahead, passed := .inr ⟨htail, rfl⟩ }⟩

/-- Any other one is the first behind the mark that is not hidden. -/
theorem Searching.layout_mark {gap : List Char} {ps : List Piece}
    (h : Searching needle text done (gap ++ mark ++ back) front tail searched
      (before ++ needle ++ behind))
    (first : ∀ a b, before ++ needle ++ behind = a ++ needle ++ b → before.length ≤ a.length)
    (hfront : front ++ searched ++ before = fold (done ++ gap) ++ x)
    (hcovers : Covers needle x mark y) (hlayout : Layout needle y back ps) :
    Layout needle tail (gap ++ mark ++ back) (.plain gap :: .marked mark :: ps) := by
  have hposition : searched ++ before = tail ++ (fold gap ++ x) := by
    rw [fold_append, h.folds] at hfront
    simp only [List.append_assoc] at hfront
    exact List.append_cancel_left hfront
  have hlength := congrArg List.length hposition
  simp only [List.length_append] at hlength
  refine .mark hcovers (fun a b hoccurs hlt => ?_) ?_ hlayout
  · rcases h.hidden_or_ahead hoccurs with hhidden | ⟨a', ha', hhay⟩
    · exact hhidden
    · -- the occurrence that is marked is the first one ahead
      have hle := first a' b hhay
      have hlength' := congrArg List.length ha'
      simp only [List.length_append] at hlength' hlt
      omega
  · rintro ⟨htail, ⟨b, hoccurs⟩, hreach⟩
    have hpos := List.length_pos_iff.mpr htail
    rw [List.length_append] at hreach
    rcases h.passed with rfl | ⟨-, rfl⟩
    · -- the one that begins in the tail would have been found first
      have hahead : before ++ needle ++ behind = [] ++ needle ++ b := by
        rw [List.nil_append, hoccurs, h.ahead, List.nil_append]
      have hle := first [] b hahead
      rw [List.length_nil] at hle hlength
      omega
    · omega

end Search

/-- **The crux**: the cuts are never refused, and they lay out the marks. -/
theorem layout_of_found {needle text : List Char} (hne : needle ≠ []) {start : Nat} {hay : List Char}
    {places : List Nat} (hfound : Found needle start hay places) :
    ∀ {done rest front tail searched : List Char},
      Searching needle text done rest front tail searched hay →
      start = byteLength (front ++ searched) →
      ∃ ps, mark? text (foldWithOrigins 0 text).origins (byteLength needle) (byteLength done)
        places = some ps ∧ Layout needle tail rest ps := by
  induction hfound with
  | none absent =>
    intro done rest front tail searched h _
    refine ⟨_, mark?_nil h.split, .last fun a b hoccurs => ?_⟩
    rcases h.hidden_or_ahead hoccurs with hhidden | ⟨a', -, hhay⟩
    · exact hhidden
    · exact absurd ⟨a', b, hhay.symm⟩ absent
  | @next start before behind places first _ ih =>
    intro done rest front tail searched h hstart
    have hfold : fold text = front ++ searched ++ before ++ needle ++ behind := by
      rw [h.fold_text]
      simp only [List.append_assoc]
    obtain ⟨front', mark, back, x, y, htext, hfront, hback, hcovers, haround⟩ :=
      around?_of_occurrence hne hfold
    have hplace : byteLength (front ++ searched ++ before) = start + byteLength before := by
      rw [byteLength_append, hstart]
    rw [hplace] at haround
    -- does it begin before the end of the last mark?
    by_cases hlt : byteLength front' < byteLength done
    · -- then it is passed over, and the search goes on
      obtain ⟨rfl, rfl, hnext⟩ := h.pass ((h.lt_iff htext hfront hcovers).mp hlt)
      rw [mark?_of_lt haround hlt]
      refine ih hnext ?_
      rw [hstart, List.append_nil, List.nil_append, byteLength_append]
    · -- otherwise it is marked, and the search begins anew behind the mark
      have heq : done ++ rest = front' ++ (mark ++ back) := by
        rw [← h.split, htext, List.append_assoc]
      obtain ⟨gap, rfl, hrest⟩ := front_of_byteLength_le heq (Nat.le_of_not_lt hlt)
      rw [← List.append_assoc] at hrest
      subst hrest
      have hstart' : start + byteLength (before ++ needle) =
          byteLength (fold (done ++ gap) ++ x ++ needle ++ []) := by
        rw [List.append_nil, ← hfront, byteLength_append, byteLength_append (front ++ _ ++ _),
          hplace, Nat.add_assoc]
      obtain ⟨ps, hps, hlayout⟩ := ih (Searching.start hcovers behind hback htext) hstart'
      exact ⟨_, mark?_of_le htext haround hps, h.layout_mark first hfront hcovers hlayout⟩

/-! ## The text as a whole

  The search starts with nothing behind it: no mark, so no tail and nothing passed over. -/

/-- The characters of a stretch, marked or not. -/
def Piece.chars : Piece → List Char
  | .plain cs => cs
  | .marked cs => cs

/-- For a query that is not empty the marks are laid out from the start of the text on. -/
theorem layout_pieces? {query : List Char} (hne : query ≠ []) (text : List Char) :
    ∃ ps, pieces? text query = some ps ∧ Layout (fold query) [] text ps := by
  have hneedle : fold query ≠ [] := fold_ne_nil hne
  have hsearching : Searching (fold query) text [] text [] [] [] (fold text) :=
    ⟨rfl, rfl, Nat.zero_le _, rfl, .inl rfl⟩
  obtain ⟨ps, hps, hlayout⟩ :=
    layout_of_found hneedle (found_occurrences hneedle 0 (fold text)) hsearching rfl
  refine ⟨ps, ?_, hlayout⟩
  cases text with
  | nil =>
    cases hps
    rfl
  | cons c cs =>
    have hgo : ¬ ((c :: cs).isEmpty || (fold query).isEmpty) = true := by simpa using hneedle
    rw [← foldWithOrigins_chars 0 (c :: cs)] at hps
    exact (if_neg hgo).trans hps

/-- The empty query marks nothing. -/
theorem pieces?_nil_query (text : List Char) : pieces? text [] = some [.plain text] := by
  unfold pieces?
  exact if_pos (Bool.or_true _)

/-- **The stretches of a text are laid out**, for a query that is not empty.  What is proved of
    marks elsewhere is proved from this. -/
theorem layout_pieces {query : List Char} (hne : query ≠ []) (text : List Char) :
    Layout (fold query) [] text (pieces text query) := by
  obtain ⟨ps, hps, hlayout⟩ := layout_pieces? hne text
  rw [pieces, hps]
  exact hlayout

/-- Together the stretches are the text they were cut from. -/
theorem Layout.flatMap_chars {needle tail rest : List Char} {ps : List Piece}
    (h : Layout needle tail rest ps) : ps.flatMap Piece.chars = rest := by
  induction h with
  | last _ => exact List.append_nil _
  | mark _ _ _ _ ih =>
    rw [List.flatMap_cons, List.flatMap_cons, ih, List.append_assoc]
    rfl

/-- The stretches are the text again. -/
theorem flatMap_chars_pieces (text query : List Char) :
    (pieces text query).flatMap Piece.chars = text := by
  by_cases hne : query = []
  · rw [hne, pieces, pieces?_nil_query]
    exact List.append_nil _
  · exact (layout_pieces hne text).flatMap_chars

end DocIndex.Markup
