/-
  THE PANEL below the input: whether it is open, the results in it in the order in which they are
  walked through, the selected row, and the query for which new results are awaited.
-/
import DocIndex.Entry

namespace DocIndex

/-- What the panel shows. -/
structure Panel where
  isOpen : Bool := false
  selected : Option Nat := none
  results : List Entry := []
  awaited : Option String := none
  deriving Repr, DecidableEq

/-- What the panel is doing. -/
inductive Phase where
  | closed
  | opened
  /-- a row is selected -/
  | navigating
  deriving Repr, DecidableEq

namespace Panel

def phase (p : Panel) : Phase :=
  match p.isOpen, p.selected with
  | false, _ => .closed
  | true, none => .opened
  | true, some _ => .navigating

/-- The selected entry, if the selection is one of the rows. -/
def selectedEntry? (p : Panel) : Option Entry := p.selected.bind (p.results[·]?)

/-- Is there a row that could be selected? -/
def hasRows (p : Panel) : Bool := p.isOpen && !p.results.isEmpty

end Panel
end DocIndex
