/-
  BLANKS AT THE ENDS of a text.

  `trim` deletes blanks and nothing else, so that a text and its trimmed form have the same INK, the
  characters that are no blanks.  What is left begins and ends with ink, and it stands in the text as
  one block: it is a front part of the text behind the leading blanks (`trim_front`).
-/
import DocIndex.Text.Blank

namespace DocIndex.Text

/-! ## Ink

  What two texts share if they differ in blanks only.  Every statement that something is kept up to
  blanks compares the ink of both sides. -/

/-- The text with all blanks deleted. -/
def ink (cs : List Char) : List Char := cs.filter (!isBlank ·)

/-- Ink is counted part by part, so a text may be cut anywhere to compare its ink. -/
@[simp] theorem ink_append (cs ds : List Char) : ink (cs ++ ds) = ink cs ++ ink ds :=
  List.filter_append ..

theorem ink_cons_of_blank {c : Char} (h : isBlank c = true) (cs : List Char) :
    ink (c :: cs) = ink cs :=
  List.filter_cons_of_neg (by simp [h])

/-- Blanks at the front are no ink, however many are dropped. -/
theorem ink_dropWhile (cs : List Char) : ink (cs.dropWhile isBlank) = ink cs := by
  induction cs with
  | nil => rfl
  | cons c cs ih =>
    rw [List.dropWhile_cons]
    split
    · -- a blank is dropped and the walk goes on; anything else stops it
      rename_i hblank
      rw [ih, ink_cons_of_blank hblank]
    · rfl

theorem ink_reverse (cs : List Char) : ink cs.reverse = (ink cs).reverse := List.filter_reverse

/-- Blanks at the end are no ink either: `trimEnd` drops them at the front of the reversed text. -/
theorem ink_trimEnd (cs : List Char) : ink (trimEnd cs) = ink cs := by
  rw [trimEnd, ink_reverse, ink_dropWhile, ink_reverse, List.reverse_reverse]

/-- Trimming deletes nothing but blanks. -/
theorem ink_trim (cs : List Char) : ink (trim cs) = ink cs := by
  rw [trim, ink_trimEnd, ink_dropWhile]

/-! ## The ends of a trimmed text

  The front is trimmed before the end, so what is known of the front has to be carried past the
  second step. -/

/-- Trimming at the end leaves a front part of the text. -/
theorem trimEnd_front (cs : List Char) : trimEnd cs <+: cs := by
  have hback : cs.reverse.dropWhile isBlank <:+ cs.reverse := List.dropWhile_suffix isBlank
  rw [← List.reverse_prefix, List.reverse_reverse] at hback
  exact hback

/-- The trimmed text is a front part of the text behind its leading blanks. -/
theorem trim_front (cs : List Char) : trim cs <+: cs.dropWhile isBlank := trimEnd_front _

/-- Trimming brings no character in.  A property of all characters of a text, such as that none is a
    delimiter, is one of its trimmed form too. -/
theorem mem_of_mem_trim {c : Char} {cs : List Char} (h : c ∈ trim cs) : c ∈ cs :=
  (List.dropWhile_suffix isBlank).subset ((trim_front cs).subset h)

/-- What is left behind the leading blanks begins with ink.  Both ends of a trimmed text come down
    to this, the last character as the first of the reversed text. -/
theorem not_blank_of_head?_dropWhile {cs : List Char} {c : Char}
    (h : (cs.dropWhile isBlank).head? = some c) : isBlank c = false := by
  have hstop := List.head?_dropWhile_not isBlank cs
  rw [h] at hstop
  exact hstop

/-- A trimmed text begins with ink, if there is anything left. -/
theorem not_blank_of_head?_trim {cs : List Char} {c : Char} (h : (trim cs).head? = some c) :
    isBlank c = false := by
  obtain ⟨back, hback⟩ := trim_front cs
  -- the trimmed text and the text behind the leading blanks begin alike
  have hfront : (cs.dropWhile isBlank).head? = some c := by
    rw [← hback, List.head?_append, h, Option.some_or]
  exact not_blank_of_head?_dropWhile hfront

/-- And it ends with ink. -/
theorem not_blank_of_getLast?_trim {cs : List Char} {c : Char}
    (h : (trim cs).getLast? = some c) : isBlank c = false := by
  rw [trim, trimEnd, List.getLast?_reverse] at h
  exact not_blank_of_head?_dropWhile h

/-! ## Texts without blanks

  Trimming leaves such a text alone, first at the one end and then at the other. -/

theorem dropWhile_eq_self {cs : List Char} (h : ∀ c ∈ cs, isBlank c = false) :
    cs.dropWhile isBlank = cs := by
  cases cs with
  | nil => rfl
  | cons c cs => rw [List.dropWhile_cons, h c List.mem_cons_self, if_neg Bool.false_ne_true]

theorem trimEnd_eq_self {cs : List Char} (h : ∀ c ∈ cs, isBlank c = false) : trimEnd cs = cs := by
  rw [trimEnd, dropWhile_eq_self fun c hc => h c (List.mem_reverse.mp hc), List.reverse_reverse]

/-- A text without blanks has nothing to trim.  Keywords are such texts. -/
theorem trim_eq_self {cs : List Char} (h : ∀ c ∈ cs, isBlank c = false) : trim cs = cs := by
  rw [trim, dropWhile_eq_self h, trimEnd_eq_self h]

/-! ## Blanks around a text

  Trimming forgets the blanks around a text and nothing else: it gives the same for all texts that
  differ in them only, and it can be undone by putting blanks back. -/

/-- All characters of the text are blanks. -/
def Blank (cs : List Char) : Prop := ∀ c ∈ cs, isBlank c = true

theorem blank_nil : Blank [] := fun _ hc => absurd hc List.not_mem_nil

/-- Blanks in front do not survive trimming. -/
theorem trim_blank_append {lead : List Char} (h : Blank lead) (cs : List Char) :
    trim (lead ++ cs) = trim cs := by
  rw [trim, List.dropWhile_append_of_pos h, trim]

/-- Nothing is left of a text that is all blanks. -/
theorem trim_of_blank {cs : List Char} (h : Blank cs) : trim cs = [] := by
  have htrim := trim_blank_append h []
  rw [List.append_nil] at htrim
  exact htrim

/-- Blanks at the end do not survive trimming at the end. -/
theorem trimEnd_append_of_blank (cs : List Char) {trail : List Char} (h : Blank trail) :
    trimEnd (cs ++ trail) = trimEnd cs := by
  have hreverse : ∀ c ∈ trail.reverse, isBlank c = true := fun c hc => h c (List.mem_reverse.mp hc)
  rw [trimEnd, List.reverse_append, List.dropWhile_append_of_pos hreverse, trimEnd]

/-- Blanks behind do not survive trimming.  This is not the mirror image of `trim_blank_append`: the
    front is trimmed first, and if the text itself is blank that already takes the blanks behind it
    along. -/
theorem trim_append_blank (cs : List Char) {trail : List Char} (h : Blank trail) :
    trim (cs ++ trail) = trim cs := by
  rw [trim, trim, List.dropWhile_append]
  split
  · -- the text itself is blank
    rename_i hempty
    rw [List.isEmpty_iff.mp hempty]
    exact trim_of_blank h
  · exact trimEnd_append_of_blank _ h

/-- What `trimEnd` takes off the end are blanks. -/
theorem trimEnd_append_blank (cs : List Char) : ∃ trail, cs = trimEnd cs ++ trail ∧ Blank trail := by
  refine ⟨(cs.reverse.takeWhile isBlank).reverse, ?_, fun c hc => ?_⟩
  · rw [trimEnd, ← List.reverse_append, List.takeWhile_append_dropWhile, List.reverse_reverse]
  · exact List.all_eq_true.mp List.all_takeWhile c (List.mem_reverse.mp hc)

/-- What is trimmed off are blanks on both sides. -/
theorem exists_blanks_around (cs : List Char) :
    ∃ lead trail, cs = lead ++ (trim cs ++ trail) ∧ Blank lead ∧ Blank trail := by
  obtain ⟨trail, htrail, hblank⟩ := trimEnd_append_blank (cs.dropWhile isBlank)
  refine ⟨cs.takeWhile isBlank, trail, ?_, fun c hc => ?_, hblank⟩
  · -- the blanks in front are what the walk from the front passed over
    rw [trim, ← htrail, List.takeWhile_append_dropWhile]
  · exact List.all_eq_true.mp List.all_takeWhile c hc

theorem dropWhile_trim (cs : List Char) : (trim cs).dropWhile isBlank = trim cs := by
  cases htrim : trim cs with
  | nil => rfl
  | cons c rest =>
    have hink : isBlank c = false := not_blank_of_head?_trim (by rw [htrim]; rfl)
    rw [List.dropWhile_cons, hink, if_neg Bool.false_ne_true]

/-- A trimmed text stays as it is. -/
theorem trim_trim (cs : List Char) : trim (trim cs) = trim cs := by
  -- seen from the end, the first character is ink and stops the walk at once
  have hreverse : (trim cs).reverse.dropWhile isBlank = (trim cs).reverse := by
    cases hrest : (trim cs).reverse with
    | nil => rfl
    | cons c rest =>
      have hlast : (trim cs).getLast? = some c := by rw [← List.head?_reverse, hrest]; rfl
      rw [List.dropWhile_cons, not_blank_of_getLast?_trim hlast, if_neg Bool.false_ne_true]
  show trimEnd ((trim cs).dropWhile isBlank) = trim cs
  rw [dropWhile_trim, trimEnd, hreverse, List.reverse_reverse]

end DocIndex.Text
