/-
  HOW THE DROPDOWN REACTS.

  A dropdown is a panel and a quiet period.  Every event gives a `Reaction`: the dropdown
  afterwards, the calls that the display has to follow, in order, and whether the event meant
  anything.  Only `poll` asks a query, and only one whose quiet period is over; the index is asked
  through `search`.

  Typing makes a new query wait, unless the text is too short: then the panel closes at once.  The
  arrows turn through the rows and wrap around.  Choosing a row, by Enter or by a click, leads to
  its destination and closes the panel.  Closing drops the query that waits, so that a closed panel
  does not open again by itself.
-/
import DocIndex.Destination
import DocIndex.Dropdown.Panel
import DocIndex.Dropdown.QuietPeriod
import DocIndex.Search.Scan

namespace DocIndex

/-- What happens to the input and the panel. -/
inductive Event where
  | input (text : String)
  | focus (text : String)
  | arrowDown
  | arrowUp
  | enter
  | escape
  | hover (row : Nat)
  | activate (entry : Entry)
  | outside
  | clear
  deriving Repr, DecidableEq

/-- What the display is told. -/
inductive Display where
  | navigate (destination : Destination)
  | present (results : Buckets)
  | hide
  | select (row : Nat)
  | showClear (visible : Bool)
  | clearInput
  | focusInput
  | releaseFocus
  deriving Repr, DecidableEq

/-- A search dropdown. -/
structure Dropdown where
  panel : Panel := {}
  quiet : QuietPeriod := { delay := QuietPeriod.defaultDelay }
  deriving Repr, DecidableEq

/-- What an event brings about. -/
structure Reaction where
  next : Dropdown
  calls : List Display := []
  /-- the queries that were asked -/
  asked : List String := []
  /-- did the event mean anything? -/
  acted : Bool := true

namespace Dropdown

/-- A dropdown with another delay.  A query that was waiting is forgotten, and still shown as
    awaited. -/
def withDelay (d : Dropdown) (delay : Nat) : Dropdown := { d with quiet := { delay := delay } }

/-- When the query that waits is due. -/
def deadline? (d : Dropdown) : Option Nat := d.quiet.deadline?

/-- Nothing happens. -/
def unmoved (d : Dropdown) : Reaction := { next := d, acted := false }

/-- Lets no query wait. -/
def cancelWaiting (d : Dropdown) : Dropdown where
  panel := { d.panel with awaited := none }
  quiet := d.quiet.cancel

/-- The dropdown with its panel closed and no query waiting. -/
def closed (d : Dropdown) : Dropdown where
  panel := {}
  quiet := d.quiet.cancel

/-- Closes the panel. -/
def close (d : Dropdown) : Reaction := { next := d.closed, calls := [.hide] }

/-- Drops the query that waits, if there is one. -/
def cancel (d : Dropdown) : Reaction := { next := d.cancelWaiting, acted := d.quiet.isWaiting }

/-- The text of the input has changed. -/
def input (d : Dropdown) (text : String) (now : Nat) : Reaction :=
  let shown := Display.showClear !text.isEmpty
  if isSearchable text then
    { next := {
        panel := { d.panel with awaited := some text }
        quiet := d.quiet.schedule text now }
      calls := [shown] }
  else { next := d.closed, calls := [shown, .hide] }

/-- The input has the focus again, holding a text. -/
def focus (d : Dropdown) (text : String) (now : Nat) : Reaction :=
  if isSearchable text then d.input text now else d.unmoved

/-- Asks the query that is due. -/
def poll (search : String → Buckets) (d : Dropdown) (now : Nat) : Reaction :=
  match d.quiet.takeDue now with
  | none => d.unmoved
  | some (query, quiet) =>
    let results := search query
    { next := { panel := { isOpen := true, results := results.flatten }, quiet := quiet }
      calls := [.present results]
      asked := [query] }

/-- Selects a row. -/
def select (d : Dropdown) (row : Nat) : Reaction where
  next := { d with panel := { d.panel with selected := some row } }
  calls := [.select row]

/-- The next row, or the first after the last. -/
def arrowDown (d : Dropdown) : Reaction :=
  if d.panel.hasRows then
    d.select (match d.panel.selected with
      | none => 0
      | some i => (i + 1) % d.panel.results.length)
  else d.unmoved

/-- The row before, or the last before the first. -/
def arrowUp (d : Dropdown) : Reaction :=
  if d.panel.hasRows then
    let count := d.panel.results.length
    d.select (match d.panel.selected with
      | none => count - 1
      | some i => (i + count - 1) % count)
  else d.unmoved

/-- The pointer is over a row. -/
def hover (d : Dropdown) (row : Nat) : Reaction :=
  if d.panel.hasRows && row < d.panel.results.length then d.select row else d.unmoved

/-- Goes to an entry. -/
def activate (d : Dropdown) (e : Entry) : Reaction where
  next := d.closed
  calls := [.navigate (.ofEntry e), .hide, .clearInput]

/-- Goes to the selected row. -/
def enter (d : Dropdown) : Reaction :=
  match d.panel.selectedEntry? with
  | some e => if d.panel.isOpen then d.activate e else d.unmoved
  | none => d.unmoved

/-- Closes the panel and gives up the focus. -/
def escape (d : Dropdown) : Reaction := { next := d.closed, calls := [.hide, .releaseFocus] }

/-- Empties the input and keeps the focus. -/
def clear (d : Dropdown) : Reaction where
  next := d.closed
  calls := [.clearInput, .showClear false, .hide, .focusInput]

/-- The reaction to an event at a time. -/
def handle (d : Dropdown) (event : Event) (now : Nat) : Reaction :=
  match event with
  | .input text => d.input text now
  | .focus text => d.focus text now
  | .arrowDown => d.arrowDown
  | .arrowUp => d.arrowUp
  | .enter => d.enter
  | .escape => d.escape
  | .hover row => d.hover row
  | .activate e => d.activate e
  | .outside => d.close
  | .clear => d.clear

end Dropdown
end DocIndex
