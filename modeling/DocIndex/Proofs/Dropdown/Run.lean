/-
  RUNS of a dropdown.

  A run starts with a fresh dropdown, perhaps with another delay, and then does one thing after the
  other to it: events and polls at any times, closing, cancelling.  `Run.state i` is the dropdown
  before the operation at place `i`, so the states of all runs are the REACHABLE dropdowns.

  1. **One step** — `Outcome` lists the six things an operation can bring about, with all that the
     reaction says, and `outcome` shows that there is no seventh.  Later proofs split on `Outcome`
     and do not open the reactions again.

  2. **Whole runs** — `state_succ` is the step of a run, and `state_induction` carries what a step
     keeps through the run.  `history_induction` does the same for what ties a state to all that
     the run has told the display and asked the index before.
-/
import DocIndex.Dropdown.Reaction

namespace DocIndex

/-- What is done to a dropdown. -/
inductive Operation where
  | event (event : Event) (now : Nat)
  | poll (now : Nat)
  | close
  | cancel
  deriving Repr, DecidableEq

namespace Dropdown

/-- The reaction to an operation. -/
def perform (search : String → Buckets) (d : Dropdown) : Operation → Reaction
  | .event e now => d.handle e now
  | .poll now => d.poll search now
  | .close => d.close
  | .cancel => d.cancel

/-! ## What one operation can bring about

  There are four sorts of operations and ten events, but far fewer things that can happen.  An
  outcome holds the whole reaction (the next dropdown, the calls, what was asked), so that
  splitting on it leaves nothing to be looked up. -/

/-- The operations that close the panel, with what the display is told. -/
inductive Closes (d : Dropdown) : Operation → List Display → Prop where
  | shortInput {text : String} {now : Nat} (short : ¬ isSearchable text = true) :
      Closes d (.event (.input text) now) [.showClear !text.isEmpty, .hide]
  | enter {e : Entry} {now : Nat} (selected : d.panel.selectedEntry? = some e)
      (isOpen : d.panel.isOpen = true) :
      Closes d (.event .enter now) [.navigate (.ofEntry e), .hide, .clearInput]
  | activate {e : Entry} {now : Nat} :
      Closes d (.event (.activate e) now) [.navigate (.ofEntry e), .hide, .clearInput]
  | escape {now : Nat} : Closes d (.event .escape now) [.hide, .releaseFocus]
  | outside {now : Nat} : Closes d (.event .outside now) [.hide]
  | clear {now : Nat} :
      Closes d (.event .clear now) [.clearInput, .showClear false, .hide, .focusInput]
  | close : Closes d .close [.hide]

/-- The six things that an operation can bring about. -/
inductive Outcome (search : String → Buckets) (d : Dropdown) : Operation → Reaction → Prop where
  /-- a text that was entered begins to wait -/
  | wait {e : Event} {text : String} {now : Nat} (entered : e = .input text ∨ e = .focus text)
      (long : isSearchable text = true) :
      Outcome search d (.event e now)
        { next := {
            panel := { d.panel with awaited := some text }
            quiet := d.quiet.schedule text now }
          calls := [.showClear !text.isEmpty] }
  /-- the panel closes -/
  | close {op : Operation} {calls : List Display} (closes : Closes d op calls) :
      Outcome search d op { next := d.closed, calls := calls }
  /-- only the query that waits is dropped -/
  | cancel : Outcome search d .cancel d.cancel
  /-- a row is selected -/
  | select {op : Operation} {row : Nat} (rows : d.panel.hasRows = true)
      (bound : row < d.panel.results.length) : Outcome search d op (d.select row)
  /-- the query that is due is asked -/
  | ask {now : Nat} {w : Waiting} (waits : d.quiet.waiting = some w) (due : w.deadline ≤ now) :
      Outcome search d (.poll now)
        { next := {
            panel := { isOpen := true, results := (search w.query).flatten }
            quiet := d.quiet.cancel }
          calls := [.present (search w.query)]
          asked := [w.query] }
  /-- nothing happens -/
  | nothing {op : Operation} : Outcome search d op d.unmoved

/-- There is a row to select exactly if the panel is open on some results. -/
theorem hasRows_iff (p : Panel) : p.hasRows = true ↔ p.isOpen = true ∧ 0 < p.results.length := by
  rw [Panel.hasRows, Bool.and_eq_true, List.length_pos_iff]
  simp

variable (search : String → Buckets) (d : Dropdown)

/-- A text that is typed begins to wait, or closes the panel if it is too short. -/
theorem input_outcome (text : String) (now : Nat) :
    Outcome search d (.event (.input text) now) (d.input text now) := by
  rw [Dropdown.input]
  split
  · rename_i long
    exact .wait (.inl rfl) long
  · rename_i short
    exact .close (.shortInput short)

/-- Focus does what typing does if the text is long enough, and nothing otherwise. -/
theorem focus_outcome (text : String) (now : Nat) :
    Outcome search d (.event (.focus text) now) (d.focus text now) := by
  rw [focus]
  split
  · rename_i long
    rw [Dropdown.input, if_pos long]
    exact .wait (.inr rfl) long
  · exact .nothing

/-- A row is selected only if there are rows, and then it is one of them. -/
theorem select_outcome (op : Operation) {row : Nat}
    (bound : 0 < d.panel.results.length → row < d.panel.results.length) :
    Outcome search d op (if d.panel.hasRows then d.select row else d.unmoved) := by
  split
  · rename_i rows
    exact .select rows (bound ((hasRows_iff _).mp rows).2)
  · exact .nothing

theorem arrowDown_outcome (op : Operation) : Outcome search d op d.arrowDown := by
  refine select_outcome search d op fun hpos => ?_
  -- the first row, or the next one modulo their number
  cases d.panel.selected with
  | none => exact hpos
  | some i => exact Nat.mod_lt _ hpos

theorem arrowUp_outcome (op : Operation) : Outcome search d op d.arrowUp := by
  refine select_outcome search d op fun hpos => ?_
  -- the last row, or the one above modulo their number
  cases d.panel.selected with
  | none => exact Nat.sub_one_lt_of_lt hpos
  | some i => exact Nat.mod_lt _ hpos

theorem hover_outcome (op : Operation) (row : Nat) : Outcome search d op (d.hover row) := by
  rw [hover]
  split
  · rename_i h
    obtain ⟨rows, bound⟩ := Bool.and_eq_true_iff.mp h
    exact .select rows (of_decide_eq_true bound)
  · exact .nothing

/-- Enter closes the panel if it goes somewhere, and does nothing otherwise. -/
theorem enter_outcome (now : Nat) : Outcome search d (.event .enter now) d.enter := by
  rw [enter]
  split
  · rename_i e selected
    split
    · -- a selected row of an open panel
      rename_i isOpen
      exact .close (.enter selected isOpen)
    · exact .nothing
  · exact .nothing

theorem poll_outcome (now : Nat) : Outcome search d (.poll now) (d.poll search now) := by
  rw [poll, QuietPeriod.takeDue]
  cases hw : d.quiet.waiting with
  | none => exact .nothing
  | some w =>
    by_cases due : w.deadline ≤ now
    · simp only [if_pos due]
      exact .ask hw due
    · simp only [if_neg due]
      exact .nothing

/-- **Every operation brings about one of the six.** -/
theorem outcome (op : Operation) : Outcome search d op (d.perform search op) := by
  cases op with
  | event e now =>
    cases e with
    | input text => exact input_outcome search d text now
    | focus text => exact focus_outcome search d text now
    | arrowDown => exact arrowDown_outcome search d _
    | arrowUp => exact arrowUp_outcome search d _
    | enter => exact enter_outcome search d now
    | hover row => exact hover_outcome search d _ row
    | escape => exact .close .escape
    | activate e => exact .close .activate
    | outside => exact .close .outside
    | clear => exact .close .clear
  | poll now => exact poll_outcome search d now
  | close => exact .close .close
  | cancel => exact .cancel

end Dropdown

/-! ## Runs

  A run is a list of operations and not a relation between states, so that places in it can be
  spoken of: before, since, last. -/

/-- A run: what answers the queries, the delay if another one was set at the start, and what is
    done, in order. -/
structure Run where
  search : String → Buckets
  delay : Option Nat := none
  ops : List Operation

namespace Run

/-- The dropdown before the first operation. -/
def start (r : Run) : Dropdown :=
  match r.delay with
  | none => {}
  | some delay => Dropdown.withDelay {} delay

/-- How long the input must rest in this run. -/
def rest (r : Run) : Nat := r.delay.getD QuietPeriod.defaultDelay

/-- The dropdown before the operation at place `i`; after the whole run if there is none. -/
def state (r : Run) (i : Nat) : Dropdown :=
  (r.ops.take i).foldl (fun d op => (d.perform r.search op).next) r.start

@[simp] theorem state_zero (r : Run) : r.state 0 = r.start := rfl

/-- One step of a run. -/
theorem state_succ {r : Run} {i : Nat} {op : Operation} (h : r.ops[i]? = some op) :
    r.state (i + 1) = ((r.state i).perform r.search op).next := by
  rw [state, List.take_add_one, h, Option.toList_some, List.foldl_append]
  rfl

/-- Behind its last operation a run stands still. -/
theorem state_succ_of_none {r : Run} {i : Nat} (h : r.ops[i]? = none) :
    r.state (i + 1) = r.state i := by
  rw [state, List.take_add_one, h, Option.toList_none, List.append_nil]
  rfl

/-- What holds at the start and is kept by every operation holds all the time. -/
theorem state_induction {r : Run} {P : Dropdown → Prop} (atStart : P r.start)
    (kept : ∀ d op, P d → P (d.perform r.search op).next) (i : Nat) : P (r.state i) := by
  induction i with
  | zero => exact atStart
  | succ i ih =>
    cases h : r.ops[i]? with
    | none => rw [state_succ_of_none h]; exact ih
    | some op => rw [state_succ h]; exact kept _ op ih

/-! ### What a run has brought about so far

  Reactions are not part of the state.  What the display was told and what was asked is gathered
  along the run. -/

/-- What the reactions before place `i` hold, one after the other. -/
def gathered {α : Type} (r : Run) (part : Reaction → List α) : Nat → List α
  | 0 => []
  | i + 1 => r.gathered part i ++
    match r.ops[i]? with
    | some op => part ((r.state i).perform r.search op)
    | none => []

/-- What the display was told before place `i`. -/
def told (r : Run) (i : Nat) : List Display := r.gathered Reaction.calls i

/-- The queries that were asked before place `i`. -/
def asked (r : Run) (i : Nat) : List String := r.gathered Reaction.asked i

theorem gathered_succ {α : Type} {r : Run} (part : Reaction → List α) {i : Nat} {op : Operation}
    (h : r.ops[i]? = some op) :
    r.gathered part (i + 1) = r.gathered part i ++ part ((r.state i).perform r.search op) := by
  rw [gathered, h]

theorem gathered_succ_of_none {α : Type} {r : Run} (part : Reaction → List α) {i : Nat}
    (h : r.ops[i]? = none) : r.gathered part (i + 1) = r.gathered part i := by
  rw [gathered, h, List.append_nil]

/-- What ties a dropdown to all that was told and asked before, and is kept by every operation,
    holds all the time. -/
theorem history_induction {r : Run} {P : Dropdown → List Display → List String → Prop}
    (atStart : P r.start [] [])
    (kept : ∀ d told asked op, P d told asked →
      P (d.perform r.search op).next (told ++ (d.perform r.search op).calls)
        (asked ++ (d.perform r.search op).asked)) (i : Nat) :
    P (r.state i) (r.told i) (r.asked i) := by
  induction i with
  | zero => exact atStart
  | succ i ih =>
    rw [told, asked]
    cases h : r.ops[i]? with
    | none =>
      rw [state_succ_of_none h, gathered_succ_of_none _ h, gathered_succ_of_none _ h]
      exact ih
    | some op =>
      rw [state_succ h, gathered_succ _ h, gathered_succ _ h]
      exact kept _ _ _ op ih

end Run
end DocIndex
