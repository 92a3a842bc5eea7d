/-
  THE TABLE OF ORIGINS IS EXACT.

  The search looks for a query in the folded text.  Highlighting looks for it in a folded text of its
  own, which comes with the table of origins: for each byte, the place of the character it came from.
  A character may take more or fewer bytes once it is folded, or become two characters, so no place of
  the one text can be reckoned from a place of the other; all goes by the table.

  1. **What stands in the table** — the places of the characters, all of them and nothing else
     (`mem_origins_iff`), in ascending order (`pairwise_origins`).

  2. **A part of the text** — where a text is cut into three, so are its folded bytes and its origins
     (`origins_of_parts`), and the origins of the part in the middle are the ones between its ends
     (`between_iff`).

  3. **Main statement** (`origins_exact`).
-/
import DocIndex.Proofs.Text.Folding

namespace DocIndex.Text

/-! ## Bytes

  The table has one entry for each byte of the folded text, and so the folded text is looked at as
  bytes. -/

/-- The bytes of a text. -/
def bytes (cs : List Char) : List UInt8 := cs.flatMap String.utf8EncodeChar

theorem bytes_append (cs ds : List Char) : bytes (cs ++ ds) = bytes cs ++ bytes ds :=
  List.flatMap_append

theorem length_bytes (cs : List Char) : (bytes cs).length = byteLength cs := by
  induction cs with
  | nil => rfl
  | cons c cs ih =>
    show (String.utf8EncodeChar c ++ bytes cs).length = c.utf8Size + byteLength cs
    rw [List.length_append, String.length_utf8EncodeChar, ih]

/-- A place of a text: so many bytes stand in front of it. -/
def IsPlace (cs : List Char) (place : Nat) : Prop :=
  ∃ front back, cs = front ++ back ∧ byteLength front = place

/-- A text can be cut at two places in order. -/
theorem exists_slice {cs : List Char} {start stop : Nat} (hstart : IsPlace cs start)
    (hstop : IsPlace cs stop) (hle : start ≤ stop) :
    ∃ front within behind, cs = front ++ within ++ behind ∧ byteLength front = start ∧
      byteLength (front ++ within) = stop := by
  obtain ⟨front, back, rfl, rfl⟩ := hstart
  obtain ⟨front', behind, heq, rfl⟩ := hstop
  -- the front with more bytes begins with the other
  obtain ⟨within, rfl, rfl⟩ := front_of_byteLength_le heq hle
  exact ⟨front, within, behind, heq, rfl, rfl⟩

/-! ## What stands in the table

  Of the table one has to know that it leads to characters, that it leaves none out, and that it
  goes forward only. -/

/-- A folded character has bytes, and so its place stands in the table. -/
theorem mem_flatMap_replicate (c : Char) (place o : Nat) :
    o ∈ (lower c).flatMap (fun d => List.replicate d.utf8Size place) ↔ o = place := by
  constructor
  · intro ho
    obtain ⟨d, -, hd⟩ := List.mem_flatMap.mp ho
    exact List.eq_of_mem_replicate hd
  · rintro rfl
    obtain ⟨d, ds, hlower⟩ := List.exists_cons_of_ne_nil (lower_ne_nil c)
    refine List.mem_flatMap.mpr ⟨d, by rw [hlower]; exact List.mem_cons_self, ?_⟩
    exact List.mem_replicate.mpr ⟨Nat.ne_of_gt d.utf8Size_pos, rfl⟩

/-- The table holds the places of the characters, each of them, and nothing else. -/
theorem mem_origins_iff (start : Nat) (cs : List Char) (o : Nat) :
    o ∈ (foldWithOrigins start cs).origins ↔
      ∃ front c back, cs = front ++ c :: back ∧ start + byteLength front = o := by
  induction cs generalizing start with
  | nil => simp [foldWithOrigins]
  | cons c cs ih =>
    rw [foldWithOrigins, List.mem_append, mem_flatMap_replicate, ih]
    constructor
    · rintro (rfl | ⟨front, c', back, rfl, rfl⟩)
      · exact ⟨[], c, cs, rfl, rfl⟩
      · refine ⟨c :: front, c', back, rfl, ?_⟩
        rw [byteLength_cons]
        omega
    · rintro ⟨front, c', back, hcs, rfl⟩
      cases front with
      | nil => exact .inl rfl
      | cons d front =>
        obtain ⟨rfl, rfl⟩ := List.cons.inj hcs
        refine .inr ⟨front, c', back, rfl, ?_⟩
        rw [byteLength_cons]
        omega

/-- Origins lie within the text. -/
theorem origin_bounds {start o : Nat} {cs : List Char}
    (ho : o ∈ (foldWithOrigins start cs).origins) : start ≤ o ∧ o < start + byteLength cs := by
  obtain ⟨front, c, back, rfl, rfl⟩ := (mem_origins_iff start cs o).mp ho
  have hpos := c.utf8Size_pos
  rw [byteLength_append, byteLength_cons]
  omega

/-- The origins ascend. -/
theorem pairwise_origins (start : Nat) (cs : List Char) :
    (foldWithOrigins start cs).origins.Pairwise (· ≤ ·) := by
  induction cs generalizing start with
  | nil => exact .nil
  | cons c cs ih =>
    rw [foldWithOrigins]
    refine List.pairwise_append.mpr ⟨?_, ih _, fun o ho o' ho' => ?_⟩
    · -- the bytes of one character all have its place
      refine List.pairwise_of_forall_mem_list fun o ho o' ho' => ?_
      have hplace := (mem_flatMap_replicate c start o).mp ho
      have hplace' := (mem_flatMap_replicate c start o').mp ho'
      show o ≤ o'
      omega
    · rw [(mem_flatMap_replicate c start o).mp ho]
      exact Nat.le_trans (Nat.le_add_right _ _) (origin_bounds ho').1

/-! ## A part of the text

  Two ways to say that the part in the middle owns the entries between its ends: by their places in
  the table (`between_iff`), and by picking the entries out one by one (`filter_tracedBytes`).  The
  first says that they are consecutive, the second that there are no others. -/

variable (front within behind : List Char)

/-- The table of a text in three parts is three tables, each counted from where its part begins. -/
theorem origins_of_parts :
    (foldWithOrigins 0 (front ++ within ++ behind)).origins =
      (foldWithOrigins 0 front).origins ++
        ((foldWithOrigins (byteLength front) within).origins ++
          (foldWithOrigins (byteLength (front ++ within)) behind).origins) := by
  rw [origins_append, origins_append, Nat.zero_add, Nat.zero_add, List.append_assoc]

/-- The bytes whose origins lie between the ends of a part are those of the folded part. -/
theorem between_iff {k o : Nat}
    (ho : (foldWithOrigins 0 (front ++ within ++ behind)).origins[k]? = some o) :
    byteLength front ≤ o ∧ o < byteLength (front ++ within) ↔
      byteLength (fold front) ≤ k ∧ k < byteLength (fold front ++ fold within) := by
  have hfront := length_origins 0 front
  have hwithin := length_origins (byteLength front) within
  have hsum := byteLength_append front within
  have hfolded := byteLength_append (fold front) (fold within)
  rw [origins_of_parts] at ho
  by_cases hk : k < byteLength (fold front)
  · -- an entry of the front: its origin lies before the part
    rw [List.getElem?_append_left (by omega)] at ho
    have hbounds := origin_bounds (List.mem_of_getElem? ho)
    omega
  · rw [List.getElem?_append_right (by omega)] at ho
    by_cases hk' : k < byteLength (fold front ++ fold within)
    · -- an entry of the part itself
      rw [List.getElem?_append_left (by omega)] at ho
      have hbounds := origin_bounds (List.mem_of_getElem? ho)
      omega
    · -- an entry of what stands behind
      rw [List.getElem?_append_right (by omega)] at ho
      have hbounds := origin_bounds (List.mem_of_getElem? ho)
      omega

/-- Each byte with its origin. -/
def tracedBytes (start : Nat) (cs : List Char) : List (UInt8 × Nat) :=
  (bytes (foldWithOrigins start cs).chars).zip (foldWithOrigins start cs).origins

/-- Bytes and origins are cut together, since there is one origin for each byte. -/
theorem tracedBytes_append (start : Nat) (cs ds : List Char) :
    tracedBytes start (cs ++ ds) = tracedBytes start cs ++ tracedBytes (start + byteLength cs) ds := by
  simp only [tracedBytes, foldWithOrigins_chars]
  rw [fold_append, bytes_append, origins_append]
  refine List.zip_append ?_
  rw [length_bytes, length_origins]

/-- Without their origins the bytes are those of the folded text. -/
theorem map_fst_tracedBytes (start : Nat) (cs : List Char) :
    (tracedBytes start cs).map Prod.fst = bytes (fold cs) := by
  rw [tracedBytes, foldWithOrigins_chars]
  refine List.map_fst_zip (Nat.le_of_eq ?_)
  rw [length_bytes, length_origins]

/-- The origin of a byte lies within the text that it comes from. -/
theorem bounds_of_mem_tracedBytes {start : Nat} {cs : List Char} {b : UInt8 × Nat}
    (hb : b ∈ tracedBytes start cs) : start ≤ b.2 ∧ b.2 < start + byteLength cs :=
  origin_bounds (List.of_mem_zip hb).2

/-- No byte of a part that ends in front of a stretch or begins behind it has its origin there. -/
theorem filter_tracedBytes_outside {low high start : Nat} {cs : List Char}
    (h : start + byteLength cs ≤ low ∨ high ≤ start) :
    (tracedBytes start cs).filter (fun b => low ≤ b.2 ∧ b.2 < high) = [] := by
  refine List.filter_eq_nil_iff.mpr fun b hb => ?_
  have hbounds := bounds_of_mem_tracedBytes hb
  rw [decide_eq_true_eq]
  omega

/-- The bytes whose origins lie between the ends of a part, picked out one by one, are the bytes of the
    folded part. -/
theorem filter_tracedBytes :
    (tracedBytes 0 (front ++ within ++ behind)).filter
        (fun b => byteLength front ≤ b.2 ∧ b.2 < byteLength (front ++ within)) =
      tracedBytes (byteLength front) within := by
  have hsum := byteLength_append front within
  have hthere : (tracedBytes (byteLength front) within).filter
      (fun b => byteLength front ≤ b.2 ∧ b.2 < byteLength (front ++ within)) =
        tracedBytes (byteLength front) within := by
    refine List.filter_eq_self.mpr fun b hb => ?_
    have hbounds := bounds_of_mem_tracedBytes hb
    rw [decide_eq_true_eq]
    omega
  rw [tracedBytes_append, tracedBytes_append, Nat.zero_add, Nat.zero_add, List.filter_append,
    List.filter_append, filter_tracedBytes_outside (.inl (by omega)), hthere,
    filter_tracedBytes_outside (.inr (Nat.le_refl _)), List.nil_append, List.append_nil]

/-- **The folded text of highlighting is the one that is searched, and its table of origins is exact.**
    For every text:
    * the folded text that comes with the table is the folded text;
    * the table has one origin for each of its bytes, and the origins ascend;
    * the origins are the places of the characters: each origin is one, and none is left out;
    * between any two places of the text in order there is a part of the text.  The bytes whose origins
      lie between the two, the first place included, are consecutive: they are the bytes from some place
      `first` up to some place `last` of the folded text, what stands there is the folded part, and
      picked out by their origins they are its bytes. -/
theorem origins_exact (text : List Char) :
    let traced := foldWithOrigins 0 text
    traced.chars = fold text ∧
    traced.origins.length = (bytes (fold text)).length ∧
    traced.origins.Pairwise (· ≤ ·) ∧
    (∀ o, o ∈ traced.origins ↔ ∃ front c back, text = front ++ c :: back ∧ byteLength front = o) ∧
    (∀ start stop, IsPlace text start → IsPlace text stop → start ≤ stop →
      ∃ within first last, slice? start stop text = some within ∧
        slice? first last (fold text) = some (fold within) ∧
        (∀ k o, traced.origins[k]? = some o → (start ≤ o ∧ o < stop ↔ first ≤ k ∧ k < last)) ∧
        (((bytes traced.chars).zip traced.origins).filter
          (fun b => start ≤ b.2 ∧ b.2 < stop)).map Prod.fst = bytes (fold within)) := by
  intro traced
  refine ⟨foldWithOrigins_chars 0 text, ?_, pairwise_origins 0 text, fun o => ?_,
    fun start stop hstart hstop hle => ?_⟩
  · rw [length_bytes]
    exact length_origins 0 text
  · rw [mem_origins_iff]
    simp only [Nat.zero_add]
  · obtain ⟨front, within, behind, rfl, rfl, rfl⟩ := exists_slice hstart hstop hle
    refine ⟨within, byteLength (fold front), byteLength (fold front ++ fold within), ?_, ?_,
      fun k o ho => between_iff front within behind ho, ?_⟩
    · exact (slice?_eq_some_iff ..).mpr ⟨front, behind, rfl, rfl, rfl⟩
    · refine (slice?_eq_some_iff ..).mpr ⟨fold front, fold behind, ?_, rfl, rfl⟩
      rw [fold_append, fold_append]
    · show ((tracedBytes 0 (front ++ within ++ behind)).filter _).map Prod.fst = _
      rw [filter_tracedBytes, map_fst_tracedBytes]

/-- The dotted capital between two letters takes two bytes, and three once it is folded. -/
theorem origins_exact_dotted :
    IsPlace ['a', '\u0130', 'b'] 1 ∧ IsPlace ['a', '\u0130', 'b'] 3 ∧
    ∃ first last, slice? first last (fold ['a', '\u0130', 'b']) = some ['i', '\u0307'] ∧
      ∀ k o, [0, 1, 1, 1, 3][k]? = some o → (1 ≤ o ∧ o < 3 ↔ first ≤ k ∧ k < last) := by
  have hstart : IsPlace ['a', '\u0130', 'b'] 1 := ⟨['a'], ['\u0130', 'b'], rfl, rfl⟩
  have hstop : IsPlace ['a', '\u0130', 'b'] 3 := ⟨['a', '\u0130'], ['b'], rfl, rfl⟩
  obtain ⟨within, first, last, hwithin, hfolded, horigins, -⟩ :=
    (origins_exact ['a', '\u0130', 'b']).2.2.2.2 1 3 hstart hstop (by decide)
  rw [show slice? 1 3 ['a', '\u0130', 'b'] = some ['\u0130'] by decide] at hwithin
  cases hwithin
  exact ⟨hstart, hstop, first, last, hfolded, horigins⟩

end DocIndex.Text
