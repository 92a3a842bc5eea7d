/-
  ESCAPED TEXTS.

  All markup rests on escaping: what is written for a text must not be taken for a tag or for another
  entity, and a reader must get the text back.

  1. **Specification** (`Clean`) — of the reserved characters a clean text holds only `&`, and wherever
     that stands it begins one of the five entities.  This says nothing of how the text came about.

  2. **Every escaped text is clean** (`clean_escapeChars`) — by induction on the text.  An `&` of what is
     written for one character cannot stand inside its entity, so it begins the entity or belongs to a
     later character.

  3. **Every clean text is escaped** (`escapeChars_decode`) — along the recursion of the decoder.  So
     decoding and escaping are inverse to each other, between all texts and the clean ones, and no entity
     is ever read across two characters.

  4. **The short way** (`escapeChars_eq_self_iff`) — an entity is longer than its character, so a text
     that holds a reserved character is never written as it is.
-/
import DocIndex.Proofs.Markup.Reading

namespace DocIndex.Markup

/-! ## Clean texts

  The specification speaks of places in the text: whatever stands before an `&`, what begins there
  is an entity.  The entities may not be read from left to right for this, since a wrong `&` could
  hide inside of what the reader takes for one. -/

/-- The five entities. -/
def entities : List (List Char) :=
  ["&amp;".toList, "&lt;".toList, "&gt;".toList, "&quot;".toList, "&#39;".toList]

/-- Nothing in the text can open a tag, end an attribute or pass for an entity by accident. -/
structure Clean (cs : List Char) : Prop where
  /-- none of the other four reserved characters is there -/
  bare : ∀ c ∈ cs, isReserved c = true → c = '&'
  /-- every `&` begins an entity -/
  entity : ∀ front back, cs = front ++ '&' :: back → ∃ e ∈ entities, e <+: '&' :: back

/-- What stands behind any front of a clean text is clean.  The decoder leaves out whole entities,
    so its recursion stays within clean texts. -/
theorem Clean.of_append (front : List Char) {cs : List Char} (h : Clean (front ++ cs)) : Clean cs where
  bare := fun c hc => h.bare c (List.mem_append_right front hc)
  entity := by
    rintro front' back rfl
    exact h.entity (front ++ front') back (List.append_assoc ..).symm

/-- A character is written as an entity, with an `&` at its beginning only, or as it is. -/
theorem escapeChar_cases (c : Char) :
    (isReserved c = true ∧ ∃ tail, escapeChar c = '&' :: tail ∧ '&' ∉ tail ∧ tail ≠ [] ∧
      '&' :: tail ∈ entities) ∨
    (isReserved c = false ∧ escapeChar c = [c]) := by
  cases hreserved : isReserved c with
  | false =>
    have hself : escapeChars [c] = [c] := by
      refine escapeChars_eq_self fun d hd => ?_
      rw [List.mem_singleton.mp hd]
      exact hreserved
    exact .inr ⟨rfl, by simpa [escapeChars] using hself⟩
  | true =>
    simp only [isReserved, Bool.or_eq_true, decide_eq_true_eq] at hreserved
    rcases hreserved with (((rfl | rfl) | rfl) | rfl) | rfl <;>
      exact .inl ⟨rfl, _, rfl, by decide, by decide, by decide⟩

theorem escapeChars_cons (c : Char) (cs : List Char) :
    escapeChars (c :: cs) = escapeChar c ++ escapeChars cs := rfl

/-! ## Escaped texts are clean

  The induction is on the text that was escaped.  The `&` at some place of the output belongs to the
  first character or to the rest, and in the first case it can only be the very first. -/

/-- Every `&` of an escaped text begins an entity. -/
theorem entity_of_escapeChars (cs : List Char) : ∀ front back,
    escapeChars cs = front ++ '&' :: back → ∃ e ∈ entities, e <+: '&' :: back := by
  induction cs with
  | nil =>
    intro front back h
    cases front <;> cases h
  | cons c cs ih =>
    intro front back h
    rw [escapeChars_cons] at h
    rcases escapeChar_cases c with ⟨-, tail, hentity, hfree, -, hmem⟩ | ⟨hplain, hself⟩
    · -- the first character is written as an entity
      rw [hentity] at h
      cases front with
      | nil =>
        refine ⟨'&' :: tail, hmem, escapeChars cs, ?_⟩
        simpa using h
      | cons d front =>
        -- the rest of the entity holds no `&`, so this one stands behind it
        have htail : tail ++ escapeChars cs = front ++ '&' :: back := (List.cons.inj h).2
        rcases List.append_eq_append_iff.mp htail with ⟨front', rfl, hrest⟩ | ⟨inner, hinner, hrest⟩
        · exact ih front' back hrest
        · cases inner with
          | nil => exact ih [] back hrest.symm
          | cons d inner =>
            obtain ⟨rfl, -⟩ := List.cons.inj hrest
            refine absurd ?_ hfree
            rw [hinner]
            exact List.mem_append_right front List.mem_cons_self
    · -- the first character is written as it is, and it is no `&`
      rw [hself] at h
      cases front with
      | nil =>
        obtain ⟨rfl, -⟩ := List.cons.inj h
        cases hplain
      | cons d front => exact ih front back (List.cons.inj h).2

/-- **Every escaped text is clean.** -/
theorem clean_escapeChars (cs : List Char) : Clean (escapeChars cs) where
  bare := by
    intro c hc hreserved
    by_cases hamp : c = '&'
    · exact hamp
    · exact absurd hc (not_mem_escapeChars hreserved hamp cs)
  entity := entity_of_escapeChars cs

/-! ## Clean texts are escaped

  The recursion of the decoder has one case for each entity and one for every other character.  Only
  in the last can an `&` be left over, and in a clean text it cannot. -/

/-- A clean text is what is written for its decoded form. -/
theorem escapeChars_decode {cs : List Char} (h : Clean cs) : escapeChars (decode cs) = cs := by
  fun_induction decode cs with
  | case1 cs ih => rw [escapeChars_cons, ih (h.of_append "&amp;".toList)]; rfl
  | case2 cs ih => rw [escapeChars_cons, ih (h.of_append "&lt;".toList)]; rfl
  | case3 cs ih => rw [escapeChars_cons, ih (h.of_append "&gt;".toList)]; rfl
  | case4 cs ih => rw [escapeChars_cons, ih (h.of_append "&quot;".toList)]; rfl
  | case5 cs ih => rw [escapeChars_cons, ih (h.of_append "&#39;".toList)]; rfl
  | case6 c cs hamp hlt hgt hquot hapos ih =>
    have hrest : escapeChars (decode cs) = cs := ih (h.of_append [c])
    rcases escapeChar_cases c with ⟨hreserved, -⟩ | ⟨-, hself⟩
    · -- an `&` that begins no entity
      obtain rfl : c = '&' := h.bare c List.mem_cons_self hreserved
      obtain ⟨e, he, tail, htail⟩ := h.entity [] cs rfl
      simp only [entities, List.mem_cons, List.not_mem_nil, or_false] at he
      rcases he with rfl | rfl | rfl | rfl | rfl
      · exact (hamp tail rfl (List.cons.inj htail).2.symm).elim
      · exact (hlt tail rfl (List.cons.inj htail).2.symm).elim
      · exact (hgt tail rfl (List.cons.inj htail).2.symm).elim
      · exact (hquot tail rfl (List.cons.inj htail).2.symm).elim
      · exact (hapos tail rfl (List.cons.inj htail).2.symm).elim
    · rw [escapeChars_cons, hself, hrest]
      rfl
  | case7 => rfl

/-! ## The short way

  Whether a text has to be escaped at all is decided by looking for reserved characters; that this
  is the right question is a matter of lengths. -/

/-- Escaping never makes a text shorter. -/
theorem length_escapeChars_le (cs : List Char) : cs.length ≤ (escapeChars cs).length := by
  induction cs with
  | nil => exact Nat.le_refl 0
  | cons c cs ih =>
    have hpos : 0 < (escapeChar c).length := by
      rcases escapeChar_cases c with ⟨-, tail, hentity, -⟩ | ⟨-, hself⟩
      · simp [hentity]
      · simp [hself]
    rw [escapeChars_cons, List.length_append, List.length_cons]
    omega

/-- A text is written as it is exactly if it holds no reserved character. -/
theorem escapeChars_eq_self_iff (cs : List Char) :
    escapeChars cs = cs ↔ cs.any isReserved = false := by
  constructor
  · intro hself
    refine List.any_eq_false.mpr fun c hc hreserved => ?_
    obtain ⟨front, back, rfl⟩ := List.append_of_mem hc
    have hlength := congrArg List.length hself
    rcases escapeChar_cases c with ⟨-, tail, hentity, -, hne, -⟩ | ⟨hplain, -⟩
    · -- the entity alone makes the text longer
      have hfront := length_escapeChars_le front
      have hback := length_escapeChars_le back
      have htail : 0 < tail.length := List.length_pos_iff.mpr hne
      rw [escapeChars_append, escapeChars_cons, hentity] at hlength
      simp only [List.length_append, List.length_cons] at hlength
      omega
    · rw [hreserved] at hplain
      cases hplain
  · intro hnone
    exact escapeChars_eq_self fun c hc => Bool.eq_false_iff.mpr (List.any_eq_false.mp hnone c hc)

/-- The short way is taken exactly if there is no reserved character in the text. -/
theorem isVerbatim_escape (s : String) : (escape s).isVerbatim = !s.toList.any isReserved := by
  unfold escape
  cases s.toList.any isReserved <;> rfl

/-- **Escaping is safe and can be undone.**  For all texts:

    * what is written is the escaped text whether or not the short way is taken, and the short way is
      taken exactly if that is the text itself;
    * two texts one after the other are escaped one after the other;
    * what is written is clean, and nothing else is: every clean text is written for some text;
    * decoding gives the text back, so different texts are written differently. -/
theorem escape_undone_by_decode (s t : String) :
    (escape s).written = String.ofList (escapeChars s.toList) ∧
    ((escape s).isVerbatim = true ↔ (escape s).written = s) ∧
    (escape (s ++ t)).written = (escape s).written ++ (escape t).written ∧
    Clean (escape s).written.toList ∧
    (Clean t.toList → ∃ u, (escape u).written = t) ∧
    decode (escape s).written.toList = s.toList ∧
    ((escape s).written = (escape t).written → s = t) := by
  have hwritten := toList_written_escape
  refine ⟨?_, ?_, ?_, ?_, fun hclean => ⟨String.ofList (decode t.toList), ?_⟩, ?_, fun heq => ?_⟩
  · rw [← hwritten, String.ofList_toList]
  · -- the short way
    rw [isVerbatim_escape, Bool.not_eq_true', ← escapeChars_eq_self_iff, ← hwritten,
      String.toList_inj]
  · refine String.toList_inj.mp ?_
    rw [String.toList_append, hwritten, hwritten, hwritten, String.toList_append,
      escapeChars_append]
  · rw [hwritten]
    exact clean_escapeChars s.toList
  · refine String.toList_inj.mp ?_
    rw [hwritten, String.toList_ofList, escapeChars_decode hclean]
  · rw [hwritten, decode_escapeChars]
  · refine String.toList_inj.mp ?_
    -- both are decoded
    have hlists := congrArg String.toList heq
    rw [hwritten, hwritten] at hlists
    rw [← decode_escapeChars s.toList, hlists, decode_escapeChars]

-- a text that already looks like an entity
example : (escape "&lt;").written = "&amp;lt;" ∧ decode "&amp;lt;".toList = "&lt;".toList := by decide

end DocIndex.Markup
