/-
  THE VIEW OF A DISPLAY.

  A display does not see the panel.  It is told to present results, to hide them and to select a
  row, and what it shows is made of these calls alone.  The view and the panel are two machines that
  must stay in step: whatever touches the panel has to say so, and what touches only the query that
  waits has to keep silent.

  1. **The view** (`View.follow`) — what a display shows after a call.

  2. **The step** (`view_perform`) — a display that shows the panel shows it again when it has
     followed the calls of one operation.  Whatever else closing tells the display, it tells it to
     hide (`follow_closes`).

  3. **Main statement** (`view_in_step`) — over whole runs, with where the rows come from: an open
     panel shows what was found for the query that was asked last.
-/
import DocIndex.Proofs.Dropdown.Run

namespace DocIndex

/-- What a display shows. -/
structure View where
  isOpen : Bool := false
  rows : List Entry := []
  selected : Option Nat := none
  deriving Repr, DecidableEq

/-- What a display shows when it has followed a call. -/
def View.follow (v : View) : Display → View
  | .present results => { isOpen := true, rows := results.flatten }
  | .hide => {}
  | .select row => { v with selected := some row }
  | .navigate _ | .showClear _ | .clearInput | .focusInput | .releaseFocus => v

/-- What a display should show of a panel. -/
def Panel.view (p : Panel) : View := ⟨p.isOpen, p.results, p.selected⟩

namespace Dropdown

variable {search : String → Buckets} {d : Dropdown} {op : Operation}

/-! ## One operation

  Calls are followed one by one, and in between the view need not agree with the panel: Enter leads
  away before it hides.  Only at the end of the reaction do the two have to meet. -/

/-- Closing leaves nothing in view, whatever was shown before. -/
theorem follow_closes {calls : List Display} (h : d.Closes op calls) (v : View) :
    calls.foldl View.follow v = {} := by
  cases h with
  | shortInput short => rfl
  | enter selected isOpen => rfl
  | activate => rfl
  | escape => rfl
  | outside => rfl
  | clear => rfl
  | close => rfl

/-- **The step**: the calls of an operation lead from the view of the panel before to the view of the
    panel after. -/
theorem view_perform (search : String → Buckets) (d : Dropdown) (op : Operation) :
    (d.perform search op).calls.foldl View.follow d.panel.view =
      (d.perform search op).next.panel.view := by
  have ho := outcome search d op
  generalize d.perform search op = reaction at ho
  cases ho with
  | wait entered long => rfl
  | close closes => exact follow_closes closes d.panel.view
  | cancel => rfl
  | select rows bound => rfl
  | ask waits due => rfl
  | nothing => rfl

/-- An open panel shows what was found for the last of the queries. -/
def ShowsLast (search : String → Buckets) (asked : List String) (d : Dropdown) : Prop :=
  d.panel.isOpen = true →
    ∃ query, asked.getLast? = some query ∧ d.panel.results = (search query).flatten

/-- **The step** for the rows: only a query that is asked brings others. -/
theorem showsLast_perform {asked : List String} (h : d.ShowsLast search asked) (op : Operation) :
    (d.perform search op).next.ShowsLast search (asked ++ (d.perform search op).asked) := by
  have hsame : d.ShowsLast search (asked ++ []) := by
    rw [List.append_nil]
    exact h
  have ho := outcome search d op
  generalize d.perform search op = reaction at ho
  cases ho with
  | wait entered long => exact hsame
  | close closes =>
    -- a closed panel shows nothing
    intro hopen
    cases hopen
  | cancel => exact hsame
  | select rows bound => exact hsame
  | @ask now w waits due =>
    intro _
    exact ⟨w.query, List.getLast?_concat, rfl⟩
  | nothing => exact hsame

end Dropdown

/-! ## Whole runs

  The invariant ties the panel to the whole history, so the induction is `history_induction`. -/

namespace Run

/-- What a display shows that has followed all calls before place `i`. -/
def view (r : Run) (i : Nat) : View := (r.told i).foldl View.follow {}

/-- Whatever the delay, the panel is closed and bare at the start. -/
theorem panel_start (r : Run) : r.start.panel = {} := by
  rw [start]
  cases r.delay with
  | none => rfl
  | some delay => rfl

/-- **The view never drifts from the panel.**  At every place of every run a display that has
    followed the calls shows whether the panel is open, its rows and the selected row; and while the
    panel is open its rows are what was found for the query that was asked last. -/
theorem view_in_step (r : Run) (i : Nat) :
    r.view i = (r.state i).panel.view ∧
    ((r.state i).panel.isOpen = true →
      ∃ query, (r.asked i).getLast? = some query ∧
        (r.state i).panel.results = (r.search query).flatten) := by
  have hstart : r.start.panel.view = {} := by
    rw [panel_start]
    rfl
  refine history_induction (r := r) (P := fun d told asked =>
    told.foldl View.follow {} = d.panel.view ∧ d.ShowsLast r.search asked) ?_ ?_ i
  · refine ⟨hstart.symm, fun hopen => ?_⟩
    rw [panel_start] at hopen
    cases hopen
  · rintro d told asked op ⟨hview, hlast⟩
    refine ⟨?_, Dropdown.showsLast_perform hlast op⟩
    rw [List.foldl_append, hview]
    exact Dropdown.view_perform r.search d op

end Run
end DocIndex
