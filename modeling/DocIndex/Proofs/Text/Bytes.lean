/-
  PLACES IN A TEXT, by what stands in front of them.

  A place is given as a number of bytes, but every proof about it speaks of the text in front of it: no
  character has zero bytes, so fronts of one text are ordered by inclusion as their places are by size
  (`front_of_byteLength_le`).  A slice is there exactly if the text can be written with the slice
  standing between two such fronts (`slice?_eq_some_iff`).
-/
import DocIndex.Text.Bytes

namespace DocIndex.Text

/-! ## Counting bytes

  A number of bytes says how much of a text stands in front of a place, and for one text it says
  which characters these are. -/

@[simp] theorem byteLength_nil : byteLength [] = 0 := rfl

@[simp] theorem byteLength_cons (c : Char) (cs : List Char) :
    byteLength (c :: cs) = c.utf8Size + byteLength cs := rfl

@[simp] theorem byteLength_append (cs ds : List Char) :
    byteLength (cs ++ ds) = byteLength cs + byteLength ds := by
  induction cs with
  | nil => simp
  | cons c cs ih =>
    rw [List.cons_append, byteLength_cons, byteLength_cons, ih]
    omega

/-- No character has zero bytes, so a text without bytes is empty.  This is why a place determines
    the text in front of it. -/
theorem eq_nil_of_byteLength_eq_zero {cs : List Char} (h : byteLength cs = 0) : cs = [] := by
  cases cs with
  | nil => rfl
  | cons c cs =>
    have hpos := c.utf8Size_pos
    rw [byteLength_cons] at h
    omega

/-- Of two fronts of one text, the one with fewer bytes is a front of the other. -/
theorem front_of_byteLength_le {front back front' back' : List Char}
    (heq : front ++ back = front' ++ back') (hle : byteLength front ≤ byteLength front') :
    ∃ between, front' = front ++ between ∧ back = between ++ back' := by
  rcases List.append_eq_append_iff.mp heq with h | ⟨between, hfront, hback⟩
  · exact h
  · -- the other way round nothing can stand between them
    have hzero : byteLength between = 0 := by
      rw [hfront, byteLength_append] at hle
      omega
    have hnil := eq_nil_of_byteLength_eq_zero hzero
    subst hnil
    refine ⟨[], ?_, ?_⟩
    · rw [hfront, List.append_nil, List.append_nil]
    · exact hback.symm

/-! ## Cutting

  `splitBytes?` and `slice?` walk along the text and count down; what they find is said here
  without a walk.  The two directions of the equivalence are that a cut is right and that every
  place can be cut at. -/

/-- A text is cut at a place into what stands in front of it and what stands behind it. -/
theorem splitBytes?_eq_some_iff (n : Nat) (cs front back : List Char) :
    splitBytes? n cs = some (front, back) ↔ cs = front ++ back ∧ byteLength front = n := by
  fun_induction splitBytes? n cs generalizing front with
  -- at the place: nothing more stands in front
  | case1 cs =>
    constructor
    · intro h
      cases h
      exact ⟨rfl, rfl⟩
    · rintro ⟨rfl, hzero⟩
      rw [eq_nil_of_byteLength_eq_zero hzero]
      rfl
  -- the text is too short
  | case2 n =>
    constructor
    · intro h
      cases h
    · rintro ⟨happend, hlength⟩
      rw [(List.append_eq_nil_iff.mp happend.symm).1, byteLength_nil] at hlength
      omega
  -- the character fits, and the rest is cut at what is left of the number
  | case3 n c cs hfits ih =>
    rw [Option.map_eq_some_iff]
    constructor
    · rintro ⟨⟨front', back'⟩, hsplit, heq⟩
      cases heq
      obtain ⟨rfl, hlength⟩ := (ih front').mp hsplit
      refine ⟨rfl, ?_⟩
      rw [byteLength_cons]
      omega
    · rintro ⟨happend, hlength⟩
      cases front with
      | nil =>
        rw [byteLength_nil] at hlength
        omega
      | cons d front =>
        obtain ⟨rfl, rfl⟩ := List.cons.inj happend
        rw [byteLength_cons] at hlength
        exact ⟨(front, back), (ih front).mpr ⟨rfl, by omega⟩, rfl⟩
  -- the number lies inside the character, so that no front has so many bytes
  | case4 n c cs hlarge =>
    constructor
    · intro h
      cases h
    · rintro ⟨happend, hlength⟩
      cases front with
      | nil =>
        rw [byteLength_nil] at hlength
        omega
      | cons d front =>
        obtain ⟨rfl, -⟩ := List.cons.inj happend
        rw [byteLength_cons] at hlength
        omega

/-- A slice is there exactly if both its ends are places of the text, in order. -/
theorem slice?_eq_some_iff (start stop : Nat) (cs within : List Char) :
    slice? start stop cs = some within ↔
      ∃ front behind, cs = front ++ within ++ behind ∧ byteLength front = start ∧
        byteLength (front ++ within) = stop := by
  constructor
  · -- two cuts, the second behind the first
    intro h
    unfold slice? at h
    split at h
    · rename_i hle
      obtain ⟨⟨front, back⟩, hfront, h⟩ := Option.bind_eq_some_iff.mp h
      obtain ⟨⟨within', behind⟩, hwithin, h⟩ := Option.bind_eq_some_iff.mp h
      cases h
      obtain ⟨rfl, hstart⟩ := (splitBytes?_eq_some_iff ..).mp hfront
      obtain ⟨rfl, hlength⟩ := (splitBytes?_eq_some_iff ..).mp hwithin
      refine ⟨front, behind, by rw [List.append_assoc], hstart, ?_⟩
      rw [byteLength_append]
      omega
    · cases h
  · rintro ⟨front, behind, rfl, rfl, rfl⟩
    have hle : byteLength front ≤ byteLength (front ++ within) := by
      rw [byteLength_append]
      omega
    have hfront : splitBytes? (byteLength front) (front ++ within ++ behind) =
        some (front, within ++ behind) :=
      (splitBytes?_eq_some_iff ..).mpr ⟨List.append_assoc .., rfl⟩
    have hwithin : splitBytes? (byteLength (front ++ within) - byteLength front)
        (within ++ behind) = some (within, behind) := by
      refine (splitBytes?_eq_some_iff ..).mpr ⟨rfl, ?_⟩
      rw [byteLength_append]
      omega
    rw [slice?, if_pos hle]
    exact Option.bind_eq_some_iff.mpr
      ⟨_, hfront, Option.bind_eq_some_iff.mpr ⟨_, hwithin, rfl⟩⟩

end DocIndex.Text
