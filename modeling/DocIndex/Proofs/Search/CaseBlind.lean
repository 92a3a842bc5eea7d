/-
  CASE BLINDNESS: the case of a query makes no difference.

  Search and highlighting fold the query before they use it, so both take a query and its folded form
  for the same, PROVIDED that folding twice is folding once.  That is a property of the table: a small
  letter that is itself lowered further would be looked for in vain.

  1. **Normal form** (`fold_eq_self_iff`) — `Capital` lists the characters that some rule moves.  A text
     is its own folded form exactly if it holds no capital, and a folded text holds none
     (`not_capital_of_mem_fold`), so a second folding has nothing to do.

  2. **Length** (`length_fold`) — folding adds one character for every dotted capital, and nothing else.
     The limit on queries is checked before folding, and this is the one place where that can be seen:
     the dotted capital alone is too short, and its folded form is not (`isSearchable_folded_iff`).

  3. **Main statement** (`query_case_immaterial`).
-/
import DocIndex.Markup.Highlight
import DocIndex.Proofs.Text.Folding
import DocIndex.Proofs.Text.Occurrence
import DocIndex.Search.Scan

namespace DocIndex

namespace Text

/-! ## Capitals

  Which characters folding moves is decided by three rules, and each is opened once: the rule for
  ASCII, the dotted capital, and the table.  That a capital is really moved has to be shown of the
  table as a whole, for a shift of zero would move nothing. -/

/-- A letter from `A` to `Z`, the dotted capital, or a capital of the table. -/
def Capital (c : Char) : Prop :=
  (65 ≤ c.toNat ∧ c.toNat ≤ 90) ∨ c = '\u0130' ∨ ∃ r ∈ caseRuns, r.covers c.toNat = true

/-- Every run lies beyond ASCII and moves its capitals. -/
theorem moving_caseRuns :
    (caseRuns.all fun r => decide (0x80 ≤ r.first) && decide (r.shift ≠ 0)) = true := by decide

theorem toLower_ne_self {c : Char} (hfirst : 65 ≤ c.toNat) (hlast : c.toNat ≤ 90) :
    c.toLower ≠ c := by
  have hall : ((List.range 26).all fun n =>
      (Char.ofNat (65 + n)).toLower != Char.ofNat (65 + n)) = true := by decide
  have hc := List.all_eq_true.mp hall (c.toNat - 65) (List.mem_range.mpr (by omega))
  rw [show 65 + (c.toNat - 65) = c.toNat by omega, Char.ofNat_toNat, bne_iff_ne] at hc
  exact hc

/-- A capital of the table is moved: all runs that cover it do so. -/
theorem lower_ne_of_covers {c : Char} {r : CaseRun} (hr : r ∈ caseRuns)
    (hcovers : r.covers c.toNat = true) : lower c ≠ [c] := by
  intro hself
  cases hfind : caseRuns.find? (·.covers c.toNat) with
  | none => exact absurd hcovers (List.find?_eq_none.mp hfind r hr)
  | some s =>
    have hs : s.covers c.toNat = true :=
      List.find?_some (p := fun r : CaseRun => r.covers c.toNat) hfind
    have hmoving := List.all_eq_true.mp moving_caseRuns s (List.mem_of_find?_eq_some hfind)
    simp only [Bool.and_eq_true, decide_eq_true_eq] at hmoving
    simp only [CaseRun.covers, Bool.and_eq_true, decide_eq_true_eq] at hs
    have hascii : 0x80 ≤ c.toNat := by omega
    unfold lower at hself
    rw [if_neg (by omega), hfind] at hself
    split at hself
    · cases hself
    · -- the small letter is at another place, unless there is no such character
      have hsmall : Char.ofNat (c.toNat + s.shift).toNat = c := (List.cons.inj hself).1
      generalize hm : (c.toNat + s.shift).toNat = m at hsmall
      by_cases hvalid : m.isValidChar
      · have hcode : m = c.toNat := by rw [← hsmall, toNat_ofNat_of_isValidChar hvalid]
        omega
      · rw [Char.ofNat, dif_neg hvalid] at hsmall
        have hcode : 0 = c.toNat := congrArg Char.toNat hsmall
        omega

/-- A character is left as it is exactly if it is no capital. -/
theorem lower_eq_self_iff (c : Char) : lower c = [c] ↔ ¬ Capital c := by
  constructor
  · -- a capital by each of the three rules
    rintro hself (⟨hfirst, hlast⟩ | rfl | ⟨r, hr, hcovers⟩)
    · rw [lower_of_ascii (by omega)] at hself
      exact toLower_ne_self hfirst hlast (List.cons.inj hself).1
    · revert hself
      decide
    · exact lower_ne_of_covers hr hcovers hself
  · -- none of the three rules applies
    intro hsmall
    have hdotted : c.toNat ≠ 0x130 :=
      fun h => hsmall (.inr (.inl (Char.toNat_inj.mp h)))
    by_cases hascii : c.toNat < 0x80
    · have hletter : c.toNat < 65 ∨ 90 < c.toNat := by
        rcases Nat.lt_or_ge c.toNat 65 with hlow | hlow
        · exact .inl hlow
        · exact .inr (Nat.lt_of_not_le fun hhigh => hsmall (.inl ⟨hlow, hhigh⟩))
      rw [lower_of_ascii hascii, toLower_eq_self hletter]
    · refine lower_of_uncovered (by omega) hdotted fun r hr => ?_
      exact Bool.eq_false_iff.mpr fun hcovers => hsmall (.inr (.inr ⟨r, hr, hcovers⟩))

/-! ## Folding twice

  Folding is idempotent because what it leads to is at rest.  It is not injective and it changes the
  length, so there is no other way to see this than character by character. -/

/-- A folded text holds no capital. -/
theorem not_capital_of_mem_fold {cs : List Char} {d : Char} (h : d ∈ fold cs) : ¬ Capital d := by
  obtain ⟨c, -, hd⟩ := List.mem_flatMap.mp h
  exact (lower_eq_self_iff d).mp (lower_of_mem_lower hd)

/-- A text is its own folded form exactly if it holds no capital. -/
theorem fold_eq_self_iff (cs : List Char) : fold cs = cs ↔ ∀ c ∈ cs, ¬ Capital c := by
  constructor
  · intro hself c hc
    rw [← hself] at hc
    exact not_capital_of_mem_fold hc
  · intro hsmall
    induction cs with
    | nil => rfl
    | cons c cs ih =>
      rw [fold_cons, (lower_eq_self_iff c).mpr (hsmall c List.mem_cons_self),
        ih fun d hd => hsmall d (List.mem_cons_of_mem c hd)]
      rfl

/-- **Folding twice is folding once.** -/
theorem fold_fold (cs : List Char) : fold (fold cs) = fold cs :=
  (fold_eq_self_iff (fold cs)).mpr fun _ hd => not_capital_of_mem_fold hd

theorem folded_folded (s : String) : folded (folded s) = folded s := by
  rw [folded, toList_folded, fold_fold, folded]

/-! ## Length

  Folding never shortens, and the one character that becomes two is the only one that lengthens. -/

/-- Folding adds one character for every dotted capital. -/
theorem length_fold (cs : List Char) : (fold cs).length = cs.length + cs.count '\u0130' := by
  induction cs with
  | nil => rfl
  | cons c cs ih =>
    rw [fold_cons, List.length_append, ih, List.length_cons]
    rcases lower_cases c with ⟨rfl, hpair⟩ | ⟨hne, d, hone⟩
    · -- the dotted capital: two characters, and it is counted
      rw [hpair, List.count_cons_self, List.length_cons, List.length_singleton]
      omega
    · rw [hone, List.count_cons_of_ne hne, List.length_singleton]
      omega

theorem length_folded (s : String) : (folded s).length = s.length + s.toList.count '\u0130' := by
  rw [← String.length_toList, toList_folded, length_fold, String.length_toList]

end Text

/-! ## Search

  All that has to be looked at is where a program uses the query without folding it.  There is one
  such place, the limit on its length. -/

/-- Folding makes one text long enough that was not: the dotted capital alone. -/
theorem isSearchable_folded_iff (query : String) :
    isSearchable (Text.folded query) = true ↔ isSearchable query = true ∨ query = "\u0130" := by
  have hfolded : isSearchable (Text.folded query) = true ↔
      2 ≤ query.length + query.toList.count '\u0130' := by
    rw [← Text.length_folded]
    exact decide_eq_true_iff
  have hquery : isSearchable query = true ↔ 2 ≤ query.length := decide_eq_true_iff
  rw [hfolded, hquery]
  constructor
  · intro h
    rcases Nat.lt_or_ge query.length 2 with hshort | hlong
    · -- at most one character, and it counts twice
      right
      rw [← String.length_toList] at h hshort
      refine String.toList_inj.mp ?_
      cases hlist : query.toList with
      | nil => simp [hlist] at h
      | cons c cs =>
        rw [hlist, List.length_cons] at h hshort
        obtain rfl : cs = [] := List.eq_nil_of_length_eq_zero (by omega)
        by_cases hc : c = '\u0130'
        · rw [hc]
          rfl
        · rw [List.count_cons_of_ne hc] at h
          simp at h
    · exact .inl hlong
  · rintro (hlong | rfl)
    · omega
    · decide

/-- A query and its folded form find the same. -/
theorem search_folded (index : List Entry) {query : String} (long : 2 ≤ query.length) :
    search index (Text.folded query) = search index query := by
  have hquery : isSearchable query = true := decide_eq_true long
  have hfolded : isSearchable (Text.folded query) = true :=
    (isSearchable_folded_iff query).mpr (.inl hquery)
  rw [search, search, Scan.run?, Scan.run?, if_pos hquery, if_pos hfolded, Text.folded_folded]

/-- A query and its folded form are marked alike. -/
theorem Markup.highlight_folded (text query : String) :
    Markup.highlight text (Text.folded query) = Markup.highlight text query := by
  have hpieces : pieces? text.toList (Text.fold query.toList) =
      pieces? text.toList query.toList := by
    rw [pieces?, pieces?, Text.fold_fold]
  rw [highlight, highlight, pieces, pieces, Text.toList_folded, hpieces]

/-- A text holds what its folded form holds: the search folds the text in any case. -/
theorem Text.holds_folded_text (text needle : String) :
    holds (folded text) needle = holds text needle := by
  rw [holds, holds, toList_folded, fold_fold]

/-- **The case of a query makes no difference.**  A folded string holds no capital and is not changed by
    folding again; folding never shortens.  So a query of two characters or more finds the same in every
    index as its folded form, and is marked in every text alike; a text holds whatever its folded form
    holds.  The limit of two characters is checked before folding, and folding moves no query across it
    but the dotted capital alone. -/
theorem query_case_immaterial (s : String) :
    Text.folded (Text.folded s) = Text.folded s ∧
    (∀ c ∈ (Text.folded s).toList, ¬ Text.Capital c) ∧
    (Text.folded s = s ↔ ∀ c ∈ s.toList, ¬ Text.Capital c) ∧
    s.length ≤ (Text.folded s).length ∧
    (2 ≤ s.length → ∀ index, search index (Text.folded s) = search index s) ∧
    (isSearchable (Text.folded s) = true ↔ isSearchable s = true ∨ s = "\u0130") ∧
    (∀ text, Markup.highlight text (Text.folded s) = Markup.highlight text s) ∧
    (∀ needle, Text.holds (Text.folded s) needle = Text.holds s needle) := by
  refine ⟨Text.folded_folded s, fun c hc => ?_, ?_, ?_, fun long index => search_folded index long,
    isSearchable_folded_iff s, fun text => Markup.highlight_folded text s, Text.holds_folded_text s⟩
  · rw [Text.toList_folded] at hc
    exact Text.not_capital_of_mem_fold hc
  · rw [← Text.fold_eq_self_iff, ← String.toList_inj, Text.toList_folded]
  · rw [Text.length_folded]
    omega

-- two capitals that no rule of ASCII knows, one of which becomes two characters
example : Text.folded "\u03a3\u0130X" = "\u03c3i\u0307x" := by decide +kernel

end DocIndex
