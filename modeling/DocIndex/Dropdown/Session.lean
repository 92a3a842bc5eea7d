/-
  A SESSION: the dropdown under a clock.

  Events are sent to an inbox, and worked on when time passes.  The session takes turns: of what is
  ready it takes a request to stop first, then the first event of the inbox, then the end of all
  events, and the query that is due last.  With nothing ready it rests until the query falls due or
  time has passed.  A request to stop leaves the inbox untouched; what is sent after the end is
  refused.  A query that is not yet due when the session ends is dropped.

  Between two passages of time no turn is taken, however many events are sent, and a wait of no
  length is no passage of time.
-/
import DocIndex.Dropdown.Reaction

namespace DocIndex

/-- What is done to a session. -/
inductive Act where
  | send (event : Event)
  | wait (duration : Nat)
  | stop
  deriving Repr, DecidableEq

/-- A dropdown at work. -/
structure Session where
  dropdown : Dropdown
  now : Nat := 0
  inbox : List Event := []
  /-- is the session to stop? -/
  stopping : Bool := false
  /-- will no further event be sent? -/
  closed : Bool := false
  ended : Bool := false
  /-- what the display was told, in order -/
  calls : List Display := []
  /-- the queries that were asked, in order -/
  asked : List String := []
  /-- how many events were sent after the end -/
  refused : Nat := 0

/-- What a session turns to. -/
inductive Turn where
  | finish
  | handle (event : Event) (later : List Event)
  /-- ask the query that is due, at its time -/
  | ask (time : Nat)
  /-- nothing is ready -/
  | rest
  deriving Repr, DecidableEq

namespace Session

/-- What comes next, up to the time `horizon`. -/
def turn (s : Session) (horizon : Nat) : Turn :=
  if s.ended then .rest
  else if s.stopping then .finish
  else match s.inbox with
    | e :: later => .handle e later
    | [] =>
      if s.closed then .finish
      else match s.dropdown.deadline? with
        | some deadline => if deadline ≤ horizon then .ask (max deadline s.now) else .rest
        | none => .rest

/-- Follows a reaction of the dropdown. -/
def follow (s : Session) (r : Reaction) : Session :=
  { s with dropdown := r.next, calls := s.calls ++ r.calls, asked := s.asked ++ r.asked }

/-- Ends the session: nothing waits any longer. -/
def finish (s : Session) : Session :=
  { s with ended := true, inbox := [], dropdown := s.dropdown.cancelWaiting }

/-- Takes one turn; `none` when there is nothing to turn to. -/
def takeTurn? (search : String → Buckets) (s : Session) (horizon : Nat) : Option Session :=
  match s.turn horizon with
  | .finish => some s.finish
  | .handle e later => some ({ s with inbox := later }.follow (s.dropdown.handle e s.now))
  | .ask time => some ({ s with now := time }.follow (s.dropdown.poll search time))
  | .rest => none

/-- Takes turns until nothing is ready, at most `rounds` of them. -/
def takeTurns (search : String → Buckets) (horizon : Nat) : Nat → Session → Session
  | 0, s => s
  | rounds + 1, s =>
    match s.takeTurn? search horizon with
    | some next => takeTurns search horizon rounds next
    | none => s

/-- Works until nothing is ready up to the time `horizon`.  A turn takes an event from the inbox,
    or asks the one query that waits, or ends the session, so there are no more than these. -/
def work (search : String → Buckets) (s : Session) (horizon : Nat) : Session :=
  takeTurns search horizon (s.inbox.length + 2) s

/-- Lets time pass.  In no time no turn is taken: what is done at one instant reaches the session
    together, and a request to stop is heard before the events that were sent just before it. -/
def wait (search : String → Buckets) (s : Session) (duration : Nat) : Session :=
  if duration = 0 then s
  else { s.work search (s.now + duration) with now := s.now + duration }

/-- Does one thing to the session. -/
def step (search : String → Buckets) (s : Session) : Act → Session
  | .send e =>
    if s.ended then { s with refused := s.refused + 1 } else { s with inbox := s.inbox ++ [e] }
  | .wait duration => s.wait search duration
  | .stop => { s with stopping := true }

/-- No further event will be sent. -/
def conclude (search : String → Buckets) (s : Session) : Session :=
  { s with closed := true }.work search s.now

/-- A whole session, which begins at the time `start`. -/
def run (search : String → Buckets) (d : Dropdown) (acts : List Act) (start : Nat := 0) : Session :=
  (acts.foldl (step search) { dropdown := d, now := start }).conclude search

end Session
end DocIndex
