/-
  THE QUIET PERIOD.

  A query is evaluated only when the input has rested for a while.  At most one query waits; a new
  one takes the place of the old and its own period begins.  Times are milliseconds on some clock.
-/
namespace DocIndex

/-- A query that waits, and the time at which it is due. -/
structure Waiting where
  query : String
  deadline : Nat
  deriving Repr, DecidableEq

/-- How long the input must rest, and the query that waits for it. -/
structure QuietPeriod where
  delay : Nat
  waiting : Option Waiting := none
  deriving Repr, DecidableEq

namespace QuietPeriod

/-- The usual delay, in milliseconds. -/
def defaultDelay : Nat := 150

/-- When the query that waits is due. -/
def deadline? (q : QuietPeriod) : Option Nat := q.waiting.map Waiting.deadline

def isWaiting (q : QuietPeriod) : Bool := q.waiting.isSome

/-- Lets a query wait from `now` on, in place of any other. -/
def schedule (q : QuietPeriod) (query : String) (now : Nat) : QuietPeriod :=
  { q with waiting := some ⟨query, now + q.delay⟩ }

/-- Lets no query wait. -/
def cancel (q : QuietPeriod) : QuietPeriod := { q with waiting := none }

/-- The query that is due at `now`, which then waits no longer. -/
def takeDue (q : QuietPeriod) (now : Nat) : Option (String × QuietPeriod) :=
  match q.waiting with
  | some w => if w.deadline ≤ now then some (w.query, q.cancel) else none
  | none => none

end QuietPeriod
end DocIndex
