/-
  THE ARROWS TURN THROUGH THE ROWS.

  On paper the arrows are the rotation by one and its inverse, on the rows 0, …, n - 1.  The dropdown
  counts in natural numbers: the arrow up adds the number of rows BEFORE it takes one off, and both
  arrows take a remainder.  None of this is safe by itself.  It is safe because a selection is one of
  the rows, and because an arrow does nothing while there are none.

  1. **The reference** (`turned`) — the row `i + d - u` modulo `n`, in integers, after `d` arrows down
     and `u` arrows up in any order.  Turning by two lists of presses, one after the other, is turning
     by both (`turned_append`).

  2. **The step** (`perform_press`) — a press selects the row that the reference gives, and does nothing
     else.  `rowBelow?` and `rowAbove?` are the same rows with an arithmetic that can fail, and it does
     not (`arithmetic_below`, `arithmetic_above`).

  3. **Whole sequences** (`performAll_presses`) — by induction on the presses, generalizing the row.
     The main statement (`arrows_rotate`) is about every dropdown that a run can reach.

  Behind an arrow the panel has the same rows, so `n` is fixed for a whole sequence of presses.  What
  could change it is an answer, and no answer comes while only arrows are pressed.
-/
import DocIndex.Proofs.Dropdown.Coherence
import DocIndex.Proofs.Dropdown.IdealClock

namespace DocIndex

/-- An arrow key. -/
inductive Arrow where
  | down
  | up
  deriving Repr, DecidableEq

/-- The event that the key brings about. -/
def Arrow.event : Arrow → Event
  | .down => .arrowDown
  | .up => .arrowUp

/-- An arrow key that is pressed at a time. -/
structure Press where
  arrow : Arrow
  now : Nat
  deriving Repr, DecidableEq

namespace Press

/-- The press as something that is done to a dropdown. -/
def operation (p : Press) : Operation := .event p.arrow.event p.now

/-- How often an arrow is pressed. -/
def count (arrow : Arrow) (presses : List Press) : Nat := presses.countP (·.arrow = arrow)

theorem count_append (arrow : Arrow) (presses more : List Press) :
    count arrow (presses ++ more) = count arrow presses + count arrow more :=
  List.countP_append

end Press

/-! ## The reference

  In integers a turn by `d` down and `u` up is one remainder, and the order of the presses is seen
  not to matter.  The program has no negative numbers, so the comparison is made after casting. -/

/-- Of `n` rows, the row to which the presses turn from row `i`. -/
def turned (n i : Nat) (presses : List Press) : Nat :=
  ((i + Press.count .down presses - Press.count .up presses : Int) % n).toNat

variable {n i : Nat}

/-- The reference in integers, where there are rows. -/
theorem cast_turned (hn : 0 < n) (i : Nat) (presses : List Press) :
    (turned n i presses : Int) =
      (i + Press.count .down presses - Press.count .up presses : Int) % n :=
  Int.toNat_of_nonneg (Int.emod_nonneg _ (by omega))

/-- The reference is one of the rows. -/
theorem turned_lt (hn : 0 < n) (i : Nat) (presses : List Press) : turned n i presses < n := by
  have hlt := Int.emod_lt_of_pos
    (i + Press.count .down presses - Press.count .up presses : Int) (show (0 : Int) < n by omega)
  rw [← cast_turned hn] at hlt
  omega

theorem turned_nil (hi : i < n) : turned n i [] = i := by
  have hcast := cast_turned (Nat.zero_lt_of_lt hi) i []
  rw [show (i + Press.count .down [] - Press.count .up [] : Int) = i from Int.sub_zero _,
    Int.emod_eq_of_lt (by omega) (by omega)] at hcast
  omega

/-- Turning twice is turning by all presses. -/
theorem turned_append (hn : 0 < n) (i : Nat) (presses more : List Press) :
    turned n i (presses ++ more) = turned n (turned n i presses) more := by
  have hleft := cast_turned hn i (presses ++ more)
  have hright := cast_turned hn (turned n i presses) more
  rw [Press.count_append, Press.count_append] at hleft
  rw [cast_turned hn i presses, Int.add_sub_assoc, Int.emod_add_emod] at hright
  -- both sides count the same presses
  have hsame : (i + Press.count .down presses - Press.count .up presses +
      (Press.count .down more - Press.count .up more) : Int) =
      i + (Press.count .down presses + Press.count .down more : Nat) -
        (Press.count .up presses + Press.count .up more : Nat) := by omega
  rw [hsame, ← hleft] at hright
  omega

/-- The presses turn back to the row exactly if the two arrows balance up to whole turns. -/
theorem turned_eq_self_iff (hi : i < n) (presses : List Press) :
    turned n i presses = i ↔
      (n : Int) ∣ (Press.count .down presses - Press.count .up presses : Int) := by
  have hn : 0 < n := Nat.zero_lt_of_lt hi
  have hcast := cast_turned hn i presses
  have hself : (i : Int) % n = i := Int.emod_eq_of_lt (by omega) (by omega)
  have hshift : (i + Press.count .down presses - Press.count .up presses : Int) - i =
      Press.count .down presses - Press.count .up presses := by omega
  rw [← hshift]
  constructor
  · -- the same remainder: the difference is divisible
    intro hsame
    rw [hsame] at hcast
    refine Int.dvd_of_emod_eq_zero ?_
    rw [Int.sub_emod, ← hcast, hself, Int.sub_self, Int.zero_emod]
  · intro hdvd
    have hzero := (Int.emod_eq_emod_iff_emod_sub_eq_zero (n := n)).mpr (Int.emod_eq_zero_of_dvd hdvd)
    rw [hself, ← hcast] at hzero
    omega

/-! ## One press

  Two questions about one press: does the arithmetic of the program ever fail, and is its row the
  one of the reference? -/

/-- A difference, if it is not below zero. -/
def minus? (a b : Nat) : Option Nat := if b ≤ a then some (a - b) else none

/-- A remainder, if the divisor is not zero. -/
def remainder? (a b : Nat) : Option Nat := if b = 0 then none else some (a % b)

namespace Panel

/-- The row to which the arrow down leads, if all arithmetic succeeds. -/
def rowBelow? (p : Panel) : Option Nat :=
  match p.selected with
  | none => some 0
  | some i => remainder? (i + 1) p.results.length

/-- The row to which the arrow up leads, if all arithmetic succeeds. -/
def rowAbove? (p : Panel) : Option Nat :=
  match p.selected with
  | none => minus? p.results.length 1
  | some i => do remainder? (← minus? (i + p.results.length) 1) p.results.length

end Panel

namespace Dropdown

variable {d : Dropdown}

/-- With rows, the arithmetic of the arrow down succeeds, and its row is selected. -/
theorem arithmetic_below (rows : d.panel.hasRows = true) :
    ∃ row, d.panel.rowBelow? = some row ∧ d.arrowDown = d.select row := by
  have hpos : 0 < d.panel.results.length := ((hasRows_iff _).mp rows).2
  rw [Panel.rowBelow?, arrowDown, if_pos rows]
  cases d.panel.selected with
  | none => exact ⟨0, rfl, rfl⟩
  | some i => exact ⟨_, if_neg (Nat.ne_of_gt hpos), rfl⟩

/-- With rows, the arithmetic of the arrow up succeeds, and its row is selected. -/
theorem arithmetic_above (rows : d.panel.hasRows = true) :
    ∃ row, d.panel.rowAbove? = some row ∧ d.arrowUp = d.select row := by
  have hpos : 0 < d.panel.results.length := ((hasRows_iff _).mp rows).2
  rw [Panel.rowAbove?, arrowUp, if_pos rows]
  cases d.panel.selected with
  | none => exact ⟨_, if_pos hpos, rfl⟩
  | some i =>
    -- the number of rows was added before, so one can be taken off
    have hminus : minus? (i + d.panel.results.length) 1 = some (i + d.panel.results.length - 1) :=
      if_pos (by omega)
    refine ⟨_, ?_, rfl⟩
    show (minus? (i + d.panel.results.length) 1).bind _ = _
    rw [hminus]
    exact if_neg (Nat.ne_of_gt hpos)

/-- **The step**: a press selects the row to which it turns, and does nothing else. -/
theorem perform_press (search : String → Buckets) (rows : d.panel.hasRows = true)
    (selected : d.panel.selected = some i) (p : Press) :
    d.perform search p.operation = d.select (turned d.panel.results.length i [p]) := by
  have hpos : 0 < d.panel.results.length := ((hasRows_iff _).mp rows).2
  have hcast := cast_turned hpos i [p]
  obtain ⟨arrow, now⟩ := p
  cases arrow with
  | down =>
    show d.arrowDown = _
    rw [arrowDown, if_pos rows, selected]
    rw [show (i + Press.count .down [⟨.down, now⟩] - Press.count .up [⟨.down, now⟩] : Int) =
      (i + 1 : Nat) from Int.sub_zero _, ← Int.natCast_emod] at hcast
    exact congrArg d.select (Int.ofNat.inj hcast).symm
  | up =>
    show d.arrowUp = _
    rw [arrowUp, if_pos rows, selected]
    -- the number of rows that was added falls out of the remainder again
    have hsum : (i + Press.count .down [⟨.up, now⟩] - Press.count .up [⟨.up, now⟩] : Int) +
        d.panel.results.length = (i + d.panel.results.length - 1 : Nat) := by
      show (i + 0 - 1 : Int) + d.panel.results.length = _
      omega
    rw [← Int.add_emod_right, hsum, ← Int.natCast_emod] at hcast
    exact congrArg d.select (Int.ofNat.inj hcast).symm

/-! ## Whole sequences

  A press changes the selection and nothing else, so behind it the number of rows is the same and
  the next press turns by the same number. -/

/-- The dropdown with a row selected and all else as it was. -/
def selecting (d : Dropdown) (row : Nat) : Dropdown :=
  { d with panel := { d.panel with selected := some row } }

theorem selecting_self (selected : d.panel.selected = some i) : d.selecting i = d := by
  rw [selecting, ← selected]

/-- Nothing else than the selection is changed, so the dropdown is the same exactly if the row is. -/
theorem selecting_eq_self_iff (selected : d.panel.selected = some i) (row : Nat) :
    d.selecting row = d ↔ row = i := by
  constructor
  · intro hsame
    have hrow : (d.selecting row).panel.selected = some i := by rw [hsame, selected]
    exact Option.some.inj hrow
  · rintro rfl
    exact selecting_self selected

end Dropdown

namespace Course

/-- What is told while the presses turn from row `i`: one row for each press. -/
def turns (n i : Nat) (presses : List Press) : List Display :=
  (List.range presses.length).map fun k => .select (turned n i (presses.take (k + 1)))

/-- The first press tells the row it turns to, and the others turn on from there. -/
theorem turns_cons (hn : 0 < n) (i : Nat) (p : Press) (presses : List Press) :
    turns n i (p :: presses) = .select (turned n i [p]) :: turns n (turned n i [p]) presses := by
  rw [turns, turns, List.length_cons, List.range_succ_eq_map, List.map_cons, List.map_map]
  refine congrArg (List.cons _) (List.map_congr_left fun k _ => ?_)
  show Display.select (turned n i ([p] ++ presses.take (k + 1))) = _
  rw [turned_append hn]

/-- The course after one press. -/
theorem perform_press (search : String → Buckets) (c : Course)
    (rows : c.dropdown.panel.hasRows = true) (selected : c.dropdown.panel.selected = some i)
    (p : Press) :
    c.perform search p.operation =
      ⟨c.dropdown.selecting (turned c.dropdown.panel.results.length i [p]),
        c.calls ++ [.select (turned c.dropdown.panel.results.length i [p])], c.asked⟩ := by
  rw [perform, Dropdown.perform_press search rows selected p]
  show (⟨_, _, c.asked ++ []⟩ : Course) = _
  rw [List.append_nil]
  rfl

/-- **The run**: the presses turn the selection, tell each row on the way, and leave all else. -/
theorem performAll_presses (search : String → Buckets) (c : Course)
    (rows : c.dropdown.panel.hasRows = true) (selected : c.dropdown.panel.selected = some i)
    (hi : i < c.dropdown.panel.results.length) (presses : List Press) :
    c.performAll search (presses.map Press.operation) =
      ⟨c.dropdown.selecting (turned c.dropdown.panel.results.length i presses),
        c.calls ++ turns c.dropdown.panel.results.length i presses, c.asked⟩ := by
  have hn : 0 < c.dropdown.panel.results.length := Nat.zero_lt_of_lt hi
  induction presses generalizing c i with
  | nil =>
    rw [turned_nil hi, Dropdown.selecting_self selected]
    show c = ⟨c.dropdown, c.calls ++ [], c.asked⟩
    rw [List.append_nil]
  | cons p presses ih =>
    -- behind the first press the rows are the same, and the selected one has turned
    let n := c.dropdown.panel.results.length
    let next : Course := ⟨c.dropdown.selecting (turned n i [p]),
      c.calls ++ [.select (turned n i [p])], c.asked⟩
    have hrest : next.performAll search (presses.map Press.operation) =
        ⟨next.dropdown.selecting (turned n (turned n i [p]) presses),
          next.calls ++ turns n (turned n i [p]) presses, next.asked⟩ :=
      ih next rows rfl (turned_lt hn i [p]) hn
    rw [List.map_cons, performAll_cons, perform_press search c rows selected p, hrest,
      turns_cons hn, show p :: presses = [p] ++ presses from rfl, turned_append hn]
    show (⟨_, (c.calls ++ [_]) ++ _, c.asked⟩ : Course) = _
    rw [List.append_assoc]
    rfl

end Course

namespace Run

/-- Presses of one arrow alone, as many as there are rows, make a whole turn. -/
theorem dvd_count_of_uniform {presses : List Press} (arrow : Arrow) (length : presses.length = n)
    (uniform : ∀ p ∈ presses, p.arrow = arrow) :
    (n : Int) ∣ (Press.count .down presses - Press.count .up presses : Int) := by
  -- all presses count for the one arrow, and none for the other
  have hall : Press.count arrow presses = n := by
    rw [← length]
    exact List.countP_eq_length.mpr fun p hp => decide_eq_true (uniform p hp)
  have hnone : ∀ other, other ≠ arrow → Press.count other presses = 0 := by
    intro other hother
    refine List.countP_eq_zero.mpr fun p hp => ?_
    rw [uniform p hp, decide_eq_true_eq]
    exact hother.symm
  cases arrow with
  | down =>
    rw [hall, hnone .up (by decide)]
    exact ⟨1, by omega⟩
  | up =>
    rw [hall, hnone .down (by decide)]
    exact ⟨-1, by omega⟩

/-- **The arrows are a rotation of the rows.**  Wherever in a run the panel is open on `n` rows:
    * if row `i` is selected, then behind any presses of the two arrows, `d` down and `u` up in any
      order, the row `i + d - u` modulo `n` is selected, and all else is as it was: the rows, the open
      panel, the query that is awaited and its deadline.  Each press tells the display the row that it
      selects, and nothing else;
    * so the presses lead back to where they began exactly if `n` divides `d - u`: down and up undo each
      other, and `n` presses of one arrow are a whole turn;
    * if no row is selected, the arrow down selects the first row and the arrow up the last;
    * no difference falls below zero and no divisor is zero. -/
theorem arrows_rotate (r : Run) (k : Nat) (isOpen : (r.state k).panel.isOpen = true)
    (nonempty : 0 < (r.state k).panel.results.length) :
    let d := r.state k
    let n := d.panel.results.length
    let after := fun presses : List Press =>
      Course.performAll r.search ⟨d, [], []⟩ (presses.map Press.operation)
    (∀ i, d.panel.selected = some i →
      (∀ presses,
        ((turned n i presses : Nat) : Int) =
          (i + Press.count .down presses - Press.count .up presses : Int) % n ∧
        turned n i presses < n ∧
        (after presses).dropdown = d.selecting (turned n i presses) ∧
        (after presses).calls = Course.turns n i presses ∧
        (after presses).asked = [] ∧
        ∀ p : Press, (after presses).dropdown.perform r.search p.operation =
          (after presses).dropdown.select (turned n i (presses ++ [p]))) ∧
      (∀ presses, (after presses).dropdown = d ↔
        (n : Int) ∣ (Press.count .down presses - Press.count .up presses : Int)) ∧
      (∀ now later, (after [⟨.down, now⟩, ⟨.up, later⟩]).dropdown = d ∧
        (after [⟨.up, now⟩, ⟨.down, later⟩]).dropdown = d) ∧
      (∀ arrow presses, presses.length = n → (∀ p ∈ presses, p.arrow = arrow) →
        (after presses).dropdown = d)) ∧
    (d.panel.selected = none → ∀ now,
      d.perform r.search (.event .arrowDown now) = d.select 0 ∧
      d.perform r.search (.event .arrowUp now) = d.select (n - 1)) ∧
    (∃ row, d.panel.rowBelow? = some row ∧ d.arrowDown = d.select row) ∧
    (∃ row, d.panel.rowAbove? = some row ∧ d.arrowUp = d.select row) := by
  intro d n after
  have rows : d.panel.hasRows = true := (Dropdown.hasRows_iff _).mpr ⟨isOpen, nonempty⟩
  refine ⟨fun i selected => ?_, fun unselected now => ?_, Dropdown.arithmetic_below rows,
    Dropdown.arithmetic_above rows⟩
  · -- a selection is one of the rows, because the dropdown can be reached
    have hi : i < n := ((Dropdown.coherent_state r k).inRange i selected).2
    have hafter : ∀ presses, after presses =
        ⟨d.selecting (turned n i presses), Course.turns n i presses, []⟩ :=
      Course.performAll_presses r.search ⟨d, [], []⟩ rows selected hi
    have hreturn : ∀ presses, (after presses).dropdown = d ↔
        (n : Int) ∣ (Press.count .down presses - Press.count .up presses : Int) := by
      intro presses
      rw [hafter, ← turned_eq_self_iff hi]
      exact Dropdown.selecting_eq_self_iff selected _
    refine ⟨fun presses => ?_, hreturn, fun now later => ?_, fun arrow presses length uniform => ?_⟩
    · rw [hafter]
      refine ⟨cast_turned nonempty i presses, turned_lt nonempty i presses, rfl, rfl, rfl,
        fun p => ?_⟩
      rw [turned_append nonempty]
      exact Dropdown.perform_press (d := d.selecting _) r.search rows rfl p
    · exact ⟨(hreturn _).mpr (Int.dvd_zero _), (hreturn _).mpr (Int.dvd_zero _)⟩
    · exact (hreturn presses).mpr (dvd_count_of_uniform arrow length uniform)
  · constructor
    · show d.arrowDown = _
      rw [Dropdown.arrowDown, if_pos rows, unselected]
    · show d.arrowUp = _
      rw [Dropdown.arrowUp, if_pos rows, unselected]

/-- Three types are found, and the first row is selected while a newer text waits. -/
def threeRows : Run where
  search := DocIndex.search
    [.ofType .classType "p" "Map", .ofType .enumType "p" "Mark", .ofType .interfaceType "p" "Mask"]
  ops := [.event (.input "ma") 0, .poll 150, .event .arrowDown 160, .event (.input "map") 170]

/-- From the first of three rows, two steps up and five down lead to the first row again; the text that
    waits still waits. -/
theorem arrows_rotate_threeRows :
    (threeRows.state 4).panel.isOpen = true ∧ 0 < (threeRows.state 4).panel.results.length ∧
    (threeRows.state 4).panel.selected = some 0 ∧
    (threeRows.state 4).panel.awaited = some "map" ∧
    (Course.performAll threeRows.search ⟨threeRows.state 4, [], []⟩
      ([⟨.up, 180⟩, ⟨.down, 181⟩, ⟨.up, 182⟩, ⟨.down, 183⟩, ⟨.down, 184⟩, ⟨.down, 185⟩,
        ⟨.down, 186⟩].map Press.operation)).dropdown = threeRows.state 4 := by
  have hopen : (threeRows.state 4).panel.isOpen = true := by decide
  have hrows : 0 < (threeRows.state 4).panel.results.length := by decide
  have hselected : (threeRows.state 4).panel.selected = some 0 := by decide
  refine ⟨hopen, hrows, hselected, by decide, ?_⟩
  exact ((arrows_rotate threeRows 4 hopen hrows).1 0 hselected).2.1 _ |>.mpr (by decide)

end Run
end DocIndex
