/-
  COHERENCE of a dropdown.

  The panel and the quiet period are kept side by side, and nothing in their types ties them
  together.  `Coherent` says how they agree in every dropdown that a run can reach: a closed panel
  is bare, a selection is one of the rows of an open panel, and the query that the panel awaits is
  the query that waits.

  1. **Step** — `coherent_perform`: every operation keeps coherence.  The delicate outcome is the
     answer to a query, which puts other results below an existing selection: it survives because
     the selection is dropped with them.

  2. **What coherence is good for** — Enter looks up the selected row before it looks whether the
     panel is open, and the arrows count modulo the number of rows.  In a coherent dropdown Enter
     acts exactly while a row is selected (`enter_acted_iff`), and an operation that does not act
     leaves no trace (`eq_unmoved_of_not_acted`).
-/
import DocIndex.Proofs.Dropdown.Run

namespace DocIndex
namespace Dropdown

/-- The parts of the dropdown agree. -/
structure Coherent (d : Dropdown) : Prop where
  /-- a closed panel is bare -/
  bare : d.panel.isOpen = false → d.panel.selected = none ∧ d.panel.results = []
  /-- a selection is one of the rows of an open panel -/
  inRange : ∀ row, d.panel.selected = some row →
    d.panel.isOpen = true ∧ row < d.panel.results.length
  /-- the panel awaits the query that waits -/
  awaits : ∀ query, d.panel.awaited = some query ↔
    ∃ deadline, d.quiet.waiting = some ⟨query, deadline⟩
  /-- no short query is awaited -/
  long : ∀ query, d.panel.awaited = some query → 2 ≤ query.length

/-! ## Every operation keeps coherence

  One lemma for each thing that an operation can bring about.  Scheduling and cancelling touch the query,
  selecting touches the row, and closing takes both away. -/

/-- A fresh dropdown is coherent, whatever its delay. -/
theorem coherent_start (delay : Nat) : Coherent { quiet := { delay := delay } } where
  bare := fun _ => ⟨rfl, rfl⟩
  inRange := nofun
  awaits := fun _ => ⟨nofun, fun ⟨_, h⟩ => nomatch h⟩
  long := nofun

/-- So is one that was closed: it is as at the start. -/
theorem coherent_closed (d : Dropdown) : Coherent d.closed := coherent_start d.quiet.delay

/-- Dropping the query drops both copies of it. -/
theorem coherent_cancelWaiting {d : Dropdown} (h : Coherent d) : Coherent d.cancelWaiting where
  bare := h.bare
  inRange := h.inRange
  awaits := fun _ => ⟨nofun, fun ⟨_, h⟩ => nomatch h⟩
  long := nofun

/-- A new query is awaited and waits. -/
theorem coherent_schedule {d : Dropdown} (h : Coherent d) {text : String} (now : Nat)
    (long : isSearchable text = true) :
    Coherent {
      panel := { d.panel with awaited := some text }
      quiet := d.quiet.schedule text now } where
  bare := h.bare
  inRange := h.inRange
  awaits := by
    intro query
    constructor
    · intro hq
      cases hq
      exact ⟨now + d.quiet.delay, rfl⟩
    · rintro ⟨deadline, hq⟩
      cases hq
      rfl
  long := by
    intro query hq
    cases hq
    exact of_decide_eq_true long

/-- A selected row is one of the rows, and the panel is open. -/
theorem coherent_select {d : Dropdown} (h : Coherent d) {row : Nat}
    (rows : d.panel.hasRows = true) (bound : row < d.panel.results.length) :
    Coherent (d.select row).next where
  bare := by
    -- the panel stays open
    intro hclosed
    have hopen : d.panel.isOpen = true := ((hasRows_iff _).mp rows).1
    rw [show (d.select row).next.panel.isOpen = d.panel.isOpen from rfl, hopen] at hclosed
    cases hclosed
  inRange := by
    intro i hi
    cases hi
    exact ⟨((hasRows_iff _).mp rows).1, bound⟩
  awaits := h.awaits
  long := h.long

/-- **The step**: an operation leaves a coherent dropdown coherent. -/
theorem coherent_perform {search : String → Buckets} {d : Dropdown} (h : Coherent d)
    (op : Operation) : Coherent (d.perform search op).next := by
  have ho := outcome search d op
  generalize d.perform search op = reaction at ho
  cases ho with
  | wait entered long => exact coherent_schedule h _ long
  | close closes => exact coherent_closed d
  | cancel => exact coherent_cancelWaiting h
  | select rows bound => exact coherent_select h rows bound
  | ask waits due =>
    -- the new results come without a selection, and nothing waits behind them
    exact ⟨nofun, nofun, fun _ => ⟨nofun, fun ⟨_, h⟩ => nomatch h⟩, nofun⟩
  | nothing => exact h

/-- Every reachable dropdown is coherent. -/
theorem coherent_state (r : Run) (i : Nat) : Coherent (r.state i) := by
  refine Run.state_induction (P := Coherent) ?_ (fun d op h => coherent_perform h op) i
  rw [Run.start]
  cases r.delay with
  | none => exact coherent_start _
  | some delay => exact coherent_start delay

/-! ## When an operation acts

  Whether an operation acted is reported with its reaction.  Here it is said in advance, by the
  state. -/

/-- Enter acts exactly while a row is selected.  Without coherence a selection could stand in a
    closed panel, or outside of the rows. -/
theorem enter_acted_iff {d : Dropdown} (h : Coherent d) :
    d.enter.acted = true ↔ d.panel.phase = .navigating := by
  rw [enter, Panel.selectedEntry?, Panel.phase]
  cases hs : d.panel.selected with
  | none => cases d.panel.isOpen <;> simp [unmoved]
  -- the row is there, so that there is an entry to go to
  | some row =>
    obtain ⟨hopen, hrow⟩ := h.inRange row hs
    rw [hopen, Option.bind_some, List.getElem?_eq_getElem hrow]
    simp [activate]

/-- A selection acts exactly if there are rows, whichever row it is for. -/
theorem select_acted_iff (d : Dropdown) (row : Nat) :
    (if d.panel.hasRows then d.select row else d.unmoved).acted = true ↔
      d.panel.isOpen = true ∧ d.panel.results ≠ [] := by
  rw [← List.length_pos_iff, ← hasRows_iff]
  split
  · rename_i rows
    simp [rows, select]
  · rename_i rows
    simp [rows, unmoved]

theorem arrowDown_acted_iff (d : Dropdown) :
    d.arrowDown.acted = true ↔ d.panel.isOpen = true ∧ d.panel.results ≠ [] :=
  select_acted_iff d _

theorem arrowUp_acted_iff (d : Dropdown) :
    d.arrowUp.acted = true ↔ d.panel.isOpen = true ∧ d.panel.results ≠ [] :=
  select_acted_iff d _

theorem hover_acted_iff (d : Dropdown) (row : Nat) :
    (d.hover row).acted = true ↔
      d.panel.isOpen = true ∧ d.panel.results ≠ [] ∧ row < d.panel.results.length := by
  rw [← and_assoc, ← List.length_pos_iff, ← hasRows_iff, hover]
  split
  · rename_i rows
    simpa [select] using rows
  · rename_i rows
    simpa [unmoved] using rows

theorem poll_acted_iff (search : String → Buckets) (d : Dropdown) (now : Nat) :
    (d.poll search now).acted = true ↔ ∃ deadline, d.deadline? = some deadline ∧ deadline ≤ now := by
  rw [poll, QuietPeriod.takeDue, deadline?, QuietPeriod.deadline?]
  -- without a query there is no deadline either
  cases d.quiet.waiting with
  | none => simp [unmoved]
  | some w =>
    by_cases due : w.deadline ≤ now
    · simp [due]
    · simp [due, unmoved]

end Dropdown

/-- Does the operation report whether it meant anything? -/
def Operation.reports : Operation → Bool
  | .event .arrowDown _ | .event .arrowUp _ | .event .enter _ | .event (.hover _) _ => true
  | .poll _ => true
  | _ => false

namespace Dropdown

/-- An operation that reports that it meant nothing has left no trace. -/
theorem eq_unmoved_of_not_acted (search : String → Buckets) (d : Dropdown) {op : Operation}
    (hop : op.reports = true) (hacted : (d.perform search op).acted = false) :
    d.perform search op = d.unmoved := by
  have ho := outcome search d op
  generalize d.perform search op = reaction at ho hacted
  cases ho with
  | nothing => rfl
  | cancel => cases hop
  | wait entered long => cases hacted
  | close closes => cases hacted
  | select rows bound => cases hacted
  | ask waits due => cases hacted

/-- **Coherence of every reachable dropdown, and what it means for the answers.**  Enter acts while
    a row is selected, the arrows while there are rows, the pointer over one of them, and a poll
    when a deadline has passed; what reports that it meant nothing leaves the dropdown, the query
    that waits and the display alone. -/
theorem reachable_coherent (r : Run) (i : Nat) :
    Coherent (r.state i) ∧
    ((r.state i).enter.acted = true ↔ (r.state i).panel.phase = .navigating) ∧
    ((r.state i).arrowDown.acted = true ↔
      (r.state i).panel.isOpen = true ∧ (r.state i).panel.results ≠ []) ∧
    ((r.state i).arrowUp.acted = true ↔
      (r.state i).panel.isOpen = true ∧ (r.state i).panel.results ≠ []) ∧
    (∀ row, ((r.state i).hover row).acted = true ↔
      (r.state i).panel.isOpen = true ∧ (r.state i).panel.results ≠ [] ∧
        row < (r.state i).panel.results.length) ∧
    (∀ now, ((r.state i).poll r.search now).acted = true ↔
      ∃ deadline, (r.state i).deadline? = some deadline ∧ deadline ≤ now) ∧
    (∀ op : Operation, op.reports = true → ((r.state i).perform r.search op).acted = false →
      ((r.state i).perform r.search op).next = r.state i ∧
      ((r.state i).perform r.search op).calls = [] ∧
      ((r.state i).perform r.search op).asked = []) := by
  have h := coherent_state r i
  refine ⟨h, enter_acted_iff h, arrowDown_acted_iff _, arrowUp_acted_iff _, hover_acted_iff _,
    poll_acted_iff r.search _, fun op hop hacted => ?_⟩
  rw [eq_unmoved_of_not_acted r.search _ hop hacted]
  exact ⟨rfl, rfl, rfl⟩

end Dropdown
end DocIndex
