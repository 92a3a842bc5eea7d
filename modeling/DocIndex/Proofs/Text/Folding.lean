/-
  FOLDING, and where folded characters come from.

  1. **Characters** — every character but one is lowered to one character.  U+0130, the capital I with a
     dot, is lowered to `i` and the dot U+0307 (`lower_cases`).

  2. **Lowering twice** (`lower_of_mem_lower`) — what has been lowered is left as it is.  For the table
     this says that no run moves a capital onto a capital.  It is checked run against run, by where the
     small letters lie, and not letter by letter.

  3. **Origins** (`fold_eq_append_cons`, `origins_getElem?`) — wherever the folded text is cut, the
     character at the cut came from one character of the text, and each of its bytes leads back to the
     place of that character.
-/
import DocIndex.Proofs.Text.Bytes
import DocIndex.Text.Fold

namespace DocIndex.Text

/-! ## Characters

  Exactly one character becomes two.  Nearly every proof about folded texts splits on it, and
  nowhere else does the table have to be opened. -/

/-- All characters but the dotted capital are lowered to one character. -/
theorem lower_cases (c : Char) :
    (c = '\u0130' ∧ lower c = ['i', '\u0307']) ∨ (c ≠ '\u0130' ∧ ∃ d, lower c = [d]) := by
  by_cases hdotted : c = '\u0130'
  · subst hdotted
    exact .inl ⟨rfl, rfl⟩
  · -- the rule for ASCII, a run of the table, or no rule at all: one character each
    have hcode : c.toNat ≠ 0x130 := fun h => hdotted (Char.toNat_inj.mp h)
    refine .inr ⟨hdotted, ?_⟩
    unfold lower
    rw [if_neg hcode]
    split
    · exact ⟨_, rfl⟩
    · split
      · exact ⟨_, rfl⟩
      · exact ⟨_, rfl⟩

theorem lower_ne_nil (c : Char) : lower c ≠ [] := by
  rcases lower_cases c with ⟨-, h⟩ | ⟨-, d, h⟩
  · simp [h]
  · simp [h]

/-- A character becomes at most two. -/
theorem length_lower_le (c : Char) : (lower c).length ≤ 2 := by
  rcases lower_cases c with ⟨-, h⟩ | ⟨-, d, h⟩
  · simp [h]
  · simp [h]

/-- A character that is lowered to more than one is the dotted capital. -/
theorem eq_dotted_of_length_lower {c : Char} (h : (lower c).length ≠ 1) :
    c = '\u0130' ∧ lower c = ['i', '\u0307'] := by
  rcases lower_cases c with hdotted | ⟨-, d, hone⟩
  · exact hdotted
  · rw [hone] at h
    exact absurd rfl h

/-! ## Texts

  The equations by which folded texts are taken apart. -/

@[simp] theorem fold_nil : fold [] = [] := rfl

@[simp] theorem fold_cons (c : Char) (cs : List Char) : fold (c :: cs) = lower c ++ fold cs := rfl

/-- Folding looks at no neighbours, so a text is folded part by part.  All that is proved of places
    in a folded text rests on this. -/
@[simp] theorem fold_append (cs ds : List Char) : fold (cs ++ ds) = fold cs ++ fold ds :=
  List.flatMap_append

theorem fold_eq_nil_iff (cs : List Char) : fold cs = [] ↔ cs = [] := by
  cases cs with
  | nil => simp
  | cons c cs => simp [lower_ne_nil]

theorem fold_ne_nil {cs : List Char} (h : cs ≠ []) : fold cs ≠ [] := mt (fold_eq_nil_iff cs).mp h

/-! ## Lowering twice

  A table of case runs could send a capital to a letter that another run takes for a capital.  That
  it does not is a fact about the table as a whole.  Each run has its first and last capital, the
  distance to the small letters and a stride; the capitals of another run can be missed because
  they lie below, above, or between. -/

/-- Of the characters up to U+007F, only the capitals A to Z are lowered. -/
theorem toLower_eq_self {c : Char} (h : c.toNat < 65 ∨ 90 < c.toNat) : c.toLower = c := by
  have hsmall : ¬ (c.val ≥ 'A'.val ∧ c.val ≤ 'Z'.val) := by
    rintro ⟨hfirst, hlast⟩
    have h65 : 65 ≤ c.toNat := UInt32.le_iff_toNat_le.mp hfirst
    have h90 : c.toNat ≤ 90 := UInt32.le_iff_toNat_le.mp hlast
    omega
  unfold Char.toLower
  exact dif_neg hsmall

/-- Lowering an ASCII character gives an ASCII character that is small already.  There are few
    enough to try them all. -/
theorem toLower_ascii {c : Char} (h : c.toNat < 0x80) :
    c.toLower.toNat < 0x80 ∧ c.toLower.toLower = c.toLower := by
  have hall : ((List.range 0x80).all fun n =>
      (Char.ofNat n).toLower.toNat < 0x80 &&
        (Char.ofNat n).toLower.toLower == (Char.ofNat n).toLower) = true := by decide
  have hc := List.all_eq_true.mp hall c.toNat (List.mem_range.mpr h)
  rw [Char.ofNat_toNat, Bool.and_eq_true, decide_eq_true_iff, beq_iff_eq] at hc
  exact hc

/-- No capital of the run lies between the two code points or, if `sparse`, none lies an even number of
    steps behind the first. -/
def CaseRun.misses (r : CaseRun) (lowest highest : Nat) (sparse : Bool) : Bool :=
  r.last.blt lowest || highest.blt r.first ||
    (sparse && r.stride == 2 && (lowest - r.first) % 2 == 1)

/-- The small letters of the run are characters that no rule lowers again. -/
def CaseRun.settled (r : CaseRun) : Bool :=
  let lowest := (r.first + r.shift).toNat
  let highest := (r.last + r.shift).toNat
  -- the small letters are code points, no surrogates, and neither capitals of ASCII nor U+0130
  decide (0 ≤ r.first + r.shift) &&
    (highest.blt 0xD800 || (Nat.blt 0xDFFF lowest && highest.blt 0x110000)) &&
    ((Nat.blt 90 lowest && highest.blt 0x130) || Nat.blt 0x130 lowest) &&
    caseRuns.all (·.misses lowest highest (r.first == r.last || r.stride == 2))

/-- **The table is settled**: of every run, the small letters are characters that no run has as a
    capital.  The comparison is of runs with runs, and the kernel does it. -/
theorem settled_caseRuns : caseRuns.all CaseRun.settled = true := by decide +kernel

/-- A run that misses the small letters of another has none of them as a capital. -/
theorem covers_eq_false_of_misses {r s : CaseRun} {n m : Nat} (hfirst : 0 ≤ r.first + r.shift)
    (hcovers : r.covers n = true) (hm : (m : Int) = n + r.shift)
    (hmisses : s.misses (r.first + r.shift).toNat (r.last + r.shift).toNat
      (r.first == r.last || r.stride == 2) = true) : s.covers m = false := by
  simp only [CaseRun.covers, Bool.and_eq_true, decide_eq_true_eq, beq_iff_eq] at hcovers
  simp only [CaseRun.misses, Nat.blt_eq, Bool.or_eq_true, Bool.and_eq_true, beq_iff_eq] at hmisses
  obtain ⟨⟨hlow, hhigh⟩, hstep⟩ := hcovers
  refine Bool.eq_false_iff.mpr fun hcovered => ?_
  simp only [CaseRun.covers, Bool.and_eq_true, decide_eq_true_eq, beq_iff_eq] at hcovered
  obtain ⟨⟨hlow', hhigh'⟩, hstep'⟩ := hcovered
  rcases hmisses with (hbelow | habove) | ⟨⟨hsparse, hstride⟩, hodd⟩
  · omega
  · omega
  · -- both step by two, and they start at an odd distance
    rw [hstride] at hstep'
    rcases hsparse with hone | htwo
    · omega
    · rw [htwo] at hstep
      omega

/-- A character beyond ASCII that is no capital is left as it is. -/
theorem lower_of_uncovered {c : Char} (hascii : 0x80 ≤ c.toNat) (hdotted : c.toNat ≠ 0x130)
    (huncovered : ∀ r ∈ caseRuns, r.covers c.toNat = false) : lower c = [c] := by
  have hnone : caseRuns.find? (·.covers c.toNat) = none := by
    refine List.find?_eq_none.mpr fun r hr => ?_
    rw [huncovered r hr]
    exact Bool.false_ne_true
  unfold lower
  rw [if_neg (by omega), if_neg hdotted, hnone]

/-- ASCII has a rule of its own, apart from the table. -/
theorem lower_of_ascii {c : Char} (h : c.toNat < 0x80) : lower c = [c.toLower] := if_pos h

/-- A code point outside of the surrogates is the code point of its character. -/
theorem toNat_ofNat_of_isValidChar {n : Nat} (h : n.isValidChar) : (Char.ofNat n).toNat = n := by
  rw [Char.ofNat, dif_pos h]
  rfl

/-- The small letters of a run are not lowered again. -/
theorem lower_ofNat_of_covers {r : CaseRun} {n : Nat} (hr : r ∈ caseRuns)
    (hcovers : r.covers n = true) :
    lower (Char.ofNat (n + r.shift).toNat) = [Char.ofNat (n + r.shift).toNat] := by
  have hsettled := List.all_eq_true.mp settled_caseRuns r hr
  have hbounds := hcovers
  simp only [CaseRun.settled, Bool.and_eq_true, Bool.or_eq_true, Nat.blt_eq,
    decide_eq_true_eq] at hsettled
  simp only [CaseRun.covers, Bool.and_eq_true, decide_eq_true_eq] at hbounds
  obtain ⟨⟨⟨hfirst, hvalid⟩, hplain⟩, hmisses⟩ := hsettled
  obtain ⟨⟨hlow, hhigh⟩, -⟩ := hbounds
  -- the code point of the small letter, as a number of its own
  generalize hm : (n + r.shift).toNat = m
  have hmvalid : m.isValidChar := by
    unfold Nat.isValidChar
    omega
  have hcode : (Char.ofNat m).toNat = m := toNat_ofNat_of_isValidChar hmvalid
  by_cases hascii : m < 0x80
  · rw [lower_of_ascii (by omega), toLower_eq_self (by omega)]
  · refine lower_of_uncovered (by omega) (by omega) fun s hs => ?_
    rw [hcode]
    exact covers_eq_false_of_misses hfirst hcovers (by omega) (List.all_eq_true.mp hmisses s hs)

/-- What has been lowered is not lowered again. -/
theorem lower_of_mem_lower {c d : Char} (h : d ∈ lower c) : lower d = [d] := by
  by_cases hascii : c.toNat < 0x80
  · -- ASCII
    rw [lower_of_ascii hascii, List.mem_singleton] at h
    obtain ⟨hbound, hsame⟩ := toLower_ascii hascii
    rw [h, lower_of_ascii hbound, hsame]
  · by_cases hdotted : c.toNat = 0x130
    · -- the dotted capital: `i` and the dot are small
      have hpair : lower c = ['i', '\u0307'] := by
        rw [lower, if_neg hascii, if_pos hdotted]
      rw [hpair] at h
      rcases List.mem_cons.mp h with rfl | h
      · decide
      · rw [List.mem_singleton.mp h]
        decide
    · unfold lower at h
      rw [if_neg hascii, if_neg hdotted] at h
      cases hfind : caseRuns.find? (·.covers c.toNat) with
      -- a capital of a run: its small letter is settled
      | some r =>
        rw [hfind, List.mem_singleton] at h
        rw [h]
        have hcovers : r.covers c.toNat = true :=
          List.find?_some (p := fun r : CaseRun => r.covers c.toNat) hfind
        exact lower_ofNat_of_covers (List.mem_of_find?_eq_some hfind) hcovers
      -- no capital at all: it stays what it is
      | none =>
        rw [hfind, List.mem_singleton] at h
        subst h
        refine lower_of_uncovered (by omega) hdotted fun r hr => ?_
        exact Bool.eq_false_iff.mpr (List.find?_eq_none.mp hfind r hr)

/-- A text of folded characters is its own folded form. -/
theorem fold_of_forall_mem_fold {cs ds : List Char} (h : ∀ d ∈ ds, d ∈ fold cs) : fold ds = ds := by
  induction ds with
  | nil => rfl
  | cons d ds ih =>
    obtain ⟨c, -, hd⟩ := List.mem_flatMap.mp (h d List.mem_cons_self)
    rw [fold_cons, lower_of_mem_lower hd, ih fun e he => h e (List.mem_cons_of_mem d he)]
    rfl

/-! ## Origins

  Each byte of the folded text leads back to the character that it came from.  The table is built
  along the text, so its equations are those of a walk: at a cut of the text the table is cut too. -/

/-- A folded character came from one character of the text. -/
theorem fold_eq_append_cons {cs a b : List Char} {d : Char} (h : fold cs = a ++ d :: b) :
    ∃ front c back x y, cs = front ++ c :: back ∧ lower c = x ++ d :: y ∧
      a = fold front ++ x ∧ b = y ++ fold back := by
  induction cs generalizing a with
  | nil => simp at h
  | cons c cs ih =>
    rw [fold_cons] at h
    rcases List.append_eq_append_iff.mp h with ⟨a', ha, hrest⟩ | ⟨x, hx, hback⟩
    · -- behind what the first character is lowered to
      obtain ⟨front, c', back, x, y, rfl, hlower, rfl, rfl⟩ := ih hrest
      exact ⟨c :: front, c', back, x, y, rfl, hlower, by simp [ha], rfl⟩
    · cases x with
      -- the cut falls right behind what the first character is lowered to
      | nil =>
        obtain ⟨front, c', back, x, y, rfl, hlower, hnil, rfl⟩ := ih (a := []) hback.symm
        refine ⟨c :: front, c', back, x, y, rfl, hlower, ?_, rfl⟩
        rw [fold_cons, List.append_assoc, ← hnil, hx, List.append_nil, List.append_nil]
      -- the character at the cut is one of those that the first is lowered to
      | cons d' y =>
        obtain ⟨rfl, rfl⟩ := List.cons.inj hback
        exact ⟨[], c, cs, a, y, rfl, hx, rfl, rfl⟩

/-- The folded text that comes with origins is the folded text. -/
@[simp] theorem foldWithOrigins_chars (start : Nat) (cs : List Char) :
    (foldWithOrigins start cs).chars = fold cs := by
  induction cs generalizing start with
  | nil => rfl
  | cons c cs ih => rw [foldWithOrigins, fold_cons, ih]

/-- The entries of one character in the table: as many as its folded form has bytes. -/
theorem length_flatMap_replicate (start : Nat) (ds : List Char) :
    (ds.flatMap fun d => List.replicate d.utf8Size start).length = byteLength ds := by
  induction ds with
  | nil => rfl
  | cons d ds ih =>
    rw [List.flatMap_cons, List.length_append, List.length_replicate, ih, byteLength_cons]

/-- There is one origin for each byte. -/
theorem length_origins (start : Nat) (cs : List Char) :
    (foldWithOrigins start cs).origins.length = byteLength (fold cs) := by
  induction cs generalizing start with
  | nil => rfl
  | cons c cs ih =>
    rw [foldWithOrigins, List.length_append, length_flatMap_replicate, ih, fold_cons,
      byteLength_append]

/-- The table of a text is the tables of its parts, the second counted from the place where the
    first part ends. -/
theorem origins_append (start : Nat) (cs ds : List Char) :
    (foldWithOrigins start (cs ++ ds)).origins =
      (foldWithOrigins start cs).origins ++ (foldWithOrigins (start + byteLength cs) ds).origins := by
  induction cs generalizing start with
  | nil => rfl
  | cons c cs ih =>
    rw [List.cons_append, foldWithOrigins, foldWithOrigins, ih, byteLength_cons, Nat.add_assoc]
    simp only [List.append_assoc]

/-- Each byte of a folded character leads back to the place of the character it came from. -/
theorem origins_getElem? (start : Nat) (front back : List Char) {x y : List Char} {c d : Char}
    {k : Nat} (hlower : lower c = x ++ d :: y) (hk : k < d.utf8Size) :
    (foldWithOrigins start (front ++ c :: back)).origins[byteLength (fold front ++ x) + k]? =
      some (start + byteLength front) := by
  let place := start + byteLength front
  -- the entries in front, those of the character up to `d`, those of `d`, and the rest
  have hsplit : (foldWithOrigins start (front ++ c :: back)).origins =
      (foldWithOrigins start front).origins ++
        ((x.flatMap fun e => List.replicate e.utf8Size place) ++
          (List.replicate d.utf8Size place ++
            ((y.flatMap fun e => List.replicate e.utf8Size place) ++
              (foldWithOrigins (place + c.utf8Size) back).origins))) := by
    rw [origins_append, foldWithOrigins, hlower, List.flatMap_append, List.flatMap_cons]
    simp only [List.append_assoc, place]
  have hfront := length_origins start front
  have hx := length_flatMap_replicate place x
  rw [hsplit, byteLength_append, List.getElem?_append_right (by omega),
    List.getElem?_append_right (by omega),
    List.getElem?_append_left (by rw [List.length_replicate]; omega), List.getElem?_replicate,
    if_pos (by omega)]

end DocIndex.Text
