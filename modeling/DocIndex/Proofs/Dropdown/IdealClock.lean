/-
  A SESSION AND THE IDEAL CLOCK.

  A session sleeps.  It wakes when an event arrives or when the query that waits falls due, and polls
  only then.  An ideal clock would poll at every instant.  Seen from outside the two are the same: the
  same calls, the same queries, the same dropdown at the end.

  1. **The reference** — a `Script` is what reaches a session, by the clock; `Script.ideal` is the list
     of operations on the bare dropdown that deliver it, with a poll at every instant before the end.
     Everything that arrives in order is the script of some session (`exists_ofActs_eq`).

  2. **The crux** (`poll_absorbed`) — a poll swallows every earlier poll: of two in a row, the later
     does what both do.  So all polls of an interval are one at its end (`polls_absorbed`), and that is
     the one that the session makes when it wakes (`wait_eq`).

  3. **In step** (`InStep`) — when time has passed, the session has polled at the instant that begins,
     and the clock has not yet.  The two can be told apart only by an event that arrives at the very
     instant at which a query falls due, and such events are left out.

  4. **Main statement** (`session_refines_ideal_clock`).  What arrives at one instant reaches the session
     together, with no turn in between.  So a request to stop is heard before the events that arrived at
     the same instant, and these count as not delivered; `stop_drops_arrivals` shows that they would make
     a difference.

  Events at the instant of a deadline are left out because the clock delivers the event and polls
  behind it, while the session has polled when its sleep ended.  If the event is a new text, the clock
  never asks the old query, and the session has asked it.
-/
import DocIndex.Dropdown.Session
import DocIndex.Proofs.Dropdown.Run

namespace DocIndex

namespace Dropdown

variable {search : String → Buckets} {d : Dropdown} {now : Nat}

/-! ## Polls

  A poll does one of two things, and the time of the poll plays no other part in it than to decide
  which. -/

/-- The reaction to a query that is due. -/
def answer (search : String → Buckets) (d : Dropdown) (query : String) : Reaction where
  next := {
    panel := { isOpen := true, results := (search query).flatten }
    quiet := d.quiet.cancel }
  calls := [.present (search query)]
  asked := [query]

/-- A poll behind the deadline gives the answer, whenever it comes. -/
theorem poll_of_due {w : Waiting} (h : d.quiet.waiting = some w) (due : w.deadline ≤ now) :
    d.poll search now = d.answer search w.query := by
  rw [poll, QuietPeriod.takeDue, h]
  simp only [if_pos due]
  rfl

/-- A poll before the deadline does nothing. -/
theorem poll_of_early (h : ∀ w, d.quiet.waiting = some w → now < w.deadline) :
    d.poll search now = d.unmoved := by
  rw [poll, QuietPeriod.takeDue]
  cases hw : d.quiet.waiting with
  | none => rfl
  | some w => simp only [if_neg (Nat.not_le_of_lt (h w hw))]

end Dropdown

/-! ## Courses

  To compare a session with a clock one compares courses: where the dropdown has come to, and
  everything it has said on the way.  Two courses that are equal cannot be told apart by anyone. -/

/-- A dropdown with all that it has told the display and asked the index. -/
structure Course where
  dropdown : Dropdown
  calls : List Display := []
  asked : List String := []
  deriving DecidableEq

namespace Course

/-- The course after an operation. -/
def perform (search : String → Buckets) (c : Course) (op : Operation) : Course where
  dropdown := (c.dropdown.perform search op).next
  calls := c.calls ++ (c.dropdown.perform search op).calls
  asked := c.asked ++ (c.dropdown.perform search op).asked

/-- The course after several operations. -/
def performAll (search : String → Buckets) (c : Course) (ops : List Operation) : Course :=
  ops.foldl (perform search) c

/-- No query falls due before `now`, or at it. -/
def Early (c : Course) (now : Nat) : Prop :=
  ∀ w, c.dropdown.quiet.waiting = some w → now < w.deadline

variable {search : String → Buckets} {c : Course}

theorem performAll_append (ops more : List Operation) :
    c.performAll search (ops ++ more) = (c.performAll search ops).performAll search more :=
  List.foldl_append

theorem performAll_cons (op : Operation) (ops : List Operation) :
    c.performAll search (op :: ops) = (c.perform search op).performAll search ops := rfl

theorem early_or_due (c : Course) (now : Nat) :
    c.Early now ∨ ∃ w, c.dropdown.quiet.waiting = some w ∧ w.deadline ≤ now := by
  cases hw : c.dropdown.quiet.waiting with
  | none => exact .inl fun w h => nomatch hw.symm.trans h
  | some w =>
    rcases Nat.lt_or_ge now w.deadline with hlt | hge
    · refine .inl fun other h => ?_
      cases hw.symm.trans h
      exact hlt
    · exact .inr ⟨w, rfl, hge⟩

/-- A course is not changed by a poll at which nothing is due. -/
theorem poll_of_early {now : Nat} (h : c.Early now) : c.perform search (.poll now) = c := by
  have hunmoved : c.dropdown.perform search (.poll now) = c.dropdown.unmoved :=
    Dropdown.poll_of_early h
  rw [perform, hunmoved]
  simp [Dropdown.unmoved]

/-- A poll at which a query is due adds the query and its answer to the course. -/
theorem poll_of_due {now : Nat} {w : Waiting} (h : c.dropdown.quiet.waiting = some w)
    (due : w.deadline ≤ now) :
    c.perform search (.poll now) =
      ⟨(c.dropdown.answer search w.query).next, c.calls ++ [.present (search w.query)],
        c.asked ++ [w.query]⟩ := by
  have hanswer : c.dropdown.perform search (.poll now) = c.dropdown.answer search w.query :=
    Dropdown.poll_of_due h due
  rw [perform, hanswer]
  rfl

/-- Behind a poll every deadline lies ahead. -/
theorem early_of_poll (c : Course) (now : Nat) : (c.perform search (.poll now)).Early now := by
  rcases c.early_or_due now with h | ⟨w, hw, due⟩
  · rw [poll_of_early h]
    exact h
  · rw [poll_of_due hw due]
    exact fun other hother => nomatch hother

/-- **The crux**: a poll swallows an earlier one. -/
theorem poll_absorbed {a b : Nat} (h : a ≤ b) :
    (c.perform search (.poll a)).perform search (.poll b) = c.perform search (.poll b) := by
  rcases c.early_or_due a with ha | ⟨w, hw, due⟩
  · rw [poll_of_early ha]
  · -- the query was due at `a` already, and nothing is left for `b`
    have hsame : c.perform search (.poll a) = c.perform search (.poll b) := by
      rw [poll_of_due hw due, poll_of_due hw (Nat.le_trans due h)]
    rw [hsame]
    exact poll_of_early (early_of_poll c b)

/-- A poll at every instant from `start` on, for `n` instants. -/
def polls (start n : Nat) : List Operation := (List.range' start n).map .poll

/-- All polls of an interval are one poll at its end. -/
theorem polls_absorbed (start n : Nat) (c : Course) :
    (c.performAll search (polls start n)).perform search (.poll (start + n)) =
      c.perform search (.poll (start + n)) := by
  induction n generalizing start c with
  | zero => rfl
  | succ n ih =>
    have hpolls : polls start (n + 1) = .poll start :: polls (start + 1) n := rfl
    rw [hpolls, performAll_cons, show start + (n + 1) = start + 1 + n by omega, ih]
    exact poll_absorbed (by omega)

/-- Behind the polls of an interval no query is due before its end. -/
theorem early_of_polls (start n : Nat) (c : Course) :
    (c.performAll search (polls start (n + 1))).Early (start + n) := by
  have hpolls : polls start (n + 1) = polls start n ++ [.poll (start + n)] := by
    rw [polls, List.range'_concat, List.map_append, Nat.one_mul]
    rfl
  rw [hpolls, performAll_append]
  exact early_of_poll _ _

/-- Behind a cancellation no query waits. -/
theorem idle_of_cancel (c : Course) (ops : List Operation) :
    (c.performAll search (ops ++ [.cancel])).dropdown.panel.awaited = none ∧
    (c.performAll search (ops ++ [.cancel])).dropdown.deadline? = none := by
  rw [performAll_append]
  exact ⟨rfl, rfl⟩

end Course

/-! ## What a session does when it wakes

  Turns are taken until nothing is ready, with as many rounds as there can be turns.  The rounds are
  spent in order: first the inbox, one event each, and then at most one query. -/

namespace Session

variable (search : String → Buckets) {s : Session}

/-- What a session has done so far. -/
def course (s : Session) : Course := ⟨s.dropdown, s.calls, s.asked⟩

/-- The session on another course, with nothing in its inbox. -/
def settled (s : Session) (c : Course) : Session :=
  { s with dropdown := c.dropdown, calls := c.calls, asked := c.asked, inbox := [] }

/-- What is in the inbox, as operations on the dropdown. -/
def deliveries (s : Session) : List Operation := s.inbox.map (.event · s.now)

/-- The session takes turns and is not asked to stop. -/
structure Running (s : Session) : Prop where
  going : s.ended = false
  unstopped : s.stopping = false

/-- A session whose inbox is empty is settled on its own course. -/
theorem settled_self (h : s.inbox = []) : s.settled s.course = s := by
  cases s
  cases h
  rfl

/-- The events of the inbox come first, and take one round each. -/
theorem takeTurns_inbox (horizon rounds : Nat) (h : s.Running) :
    takeTurns search horizon (s.inbox.length + rounds) s =
      takeTurns search horizon rounds (s.settled (s.course.performAll search s.deliveries)) := by
  induction hinbox : s.inbox generalizing s with
  | nil =>
    rw [deliveries, hinbox, List.length_nil, Nat.zero_add]
    exact congrArg _ (settled_self hinbox).symm
  | cons e later ih =>
    -- neither ended nor stopping: the first event is handled
    have hturn : s.takeTurn? search horizon =
        some ({ s with inbox := later }.follow (s.dropdown.handle e s.now)) := by
      rw [takeTurn?, turn, h.going, h.unstopped, hinbox]
      rfl
    have hlater := ih (s := { s with inbox := later }.follow (s.dropdown.handle e s.now))
      ⟨h.going, h.unstopped⟩ rfl
    have hdeliveries : s.deliveries = .event e s.now :: later.map (.event · s.now) := by
      rw [deliveries, hinbox]
      rfl
    rw [List.length_cons, show later.length + 1 + rounds = later.length + rounds + 1 by omega,
      takeTurns, hturn, hdeliveries]
    exact hlater

/-- With nothing to turn to, further rounds change nothing. -/
theorem takeTurns_of_rest {horizon : Nat} (h : s.turn horizon = .rest) (rounds : Nat) :
    takeTurns search horizon (rounds + 1) s = s := by
  rw [takeTurns, takeTurn?, h]

/-- What an open session with an empty inbox turns to hangs on the deadline alone. -/
theorem turn_of_waiting (h : s.Running) (hopen : s.closed = false) (hinbox : s.inbox = [])
    (horizon : Nat) :
    s.turn horizon =
      match s.dropdown.quiet.waiting with
      | some w => if w.deadline ≤ horizon then .ask (max w.deadline s.now) else .rest
      | none => .rest := by
  rw [turn, h.going, h.unstopped, hinbox, hopen, Dropdown.deadline?, QuietPeriod.deadline?]
  cases s.dropdown.quiet.waiting <;> rfl

/-- With an empty inbox, an open session makes the poll that falls due up to the horizon. -/
theorem takeTurns_poll (h : s.Running) (hopen : s.closed = false) (hinbox : s.inbox = [])
    (horizon : Nat) :
    ∃ time, takeTurns search horizon 2 s =
      { s.settled (s.course.perform search (.poll horizon)) with now := time } := by
  have hturn := turn_of_waiting h hopen hinbox horizon
  cases hw : s.dropdown.quiet.waiting with
  -- nothing waits, so nothing is ready and nothing is due
  | none =>
    refine ⟨s.now, ?_⟩
    have early : s.course.Early horizon := fun w h => nomatch hw.symm.trans h
    rw [Course.poll_of_early early, settled_self hinbox]
    rw [hw] at hturn
    exact takeTurns_of_rest search hturn 1
  | some w =>
    rw [hw] at hturn
    by_cases due : w.deadline ≤ horizon
    · -- the session asks at its own time, and then nothing waits any longer
      have hlast : ({ s with now := max w.deadline s.now }.follow
          (s.dropdown.answer search w.query)).turn horizon = .rest :=
        turn_of_waiting (s := { s with now := max w.deadline s.now }.follow
          (s.dropdown.answer search w.query)) ⟨h.going, h.unstopped⟩ hopen hinbox horizon
      have hturns : takeTurns search horizon 2 s = { s with now := max w.deadline s.now }.follow
          (s.dropdown.answer search w.query) := by
        rw [takeTurns, takeTurn?, hturn.trans (if_pos due), ← takeTurns_of_rest search hlast 0,
          ← Dropdown.poll_of_due hw (Nat.le_max_left w.deadline s.now)]
      refine ⟨max w.deadline s.now, ?_⟩
      rw [hturns, Course.poll_of_due hw due]
      simp only [follow, settled, hinbox]
      rfl
    · -- the query is not due up to the horizon
      refine ⟨s.now, ?_⟩
      have early : s.course.Early horizon := by
        intro other hother
        cases hw.symm.trans hother
        exact Nat.lt_of_not_le due
      rw [Course.poll_of_early early, settled_self hinbox]
      exact takeTurns_of_rest search (hturn.trans (if_neg due)) 1

/-- **What a wait does**: the events of the inbox are handled, and one poll is made at its end. -/
theorem wait_eq (h : s.Running) (hopen : s.closed = false) {duration : Nat} (hpos : 0 < duration) :
    s.wait search duration =
      { s.settled ((s.course.performAll search s.deliveries).perform search
          (.poll (s.now + duration))) with now := s.now + duration } := by
  obtain ⟨time, htime⟩ := takeTurns_poll search
    (s := s.settled (s.course.performAll search s.deliveries)) ⟨h.going, h.unstopped⟩ hopen rfl
    (s.now + duration)
  rw [wait, if_neg (by omega), work, takeTurns_inbox search _ _ h, htime]
  rfl

/-- Time that passes leaves a session running, with an empty inbox. -/
theorem running_wait (h : s.Running) (hopen : s.closed = false) {duration : Nat}
    (hpos : 0 < duration) :
    (s.wait search duration).Running ∧ (s.wait search duration).closed = false ∧
    (s.wait search duration).now = s.now + duration ∧ (s.wait search duration).inbox = [] := by
  rw [wait_eq search h hopen hpos]
  exact ⟨⟨h.going, h.unstopped⟩, hopen, rfl, rfl⟩

/-! ## How a session ends

  In two ways: all events have come, and then the inbox is delivered; or it is asked to stop, and then
  it is not.  Either way the query that waits is dropped. -/

/-- To finish is to cancel: the calls and queries are as they were. -/
theorem finish_course (s : Session) : s.finish.course = s.course.perform search .cancel := by
  simp [course, finish, Course.perform, Dropdown.perform, Dropdown.cancel]

theorem turn_of_ended (h : s.ended = true) (horizon : Nat) : s.turn horizon = .rest := by
  rw [turn, h]
  rfl

/-- A request to stop comes before everything else, also before the inbox. -/
theorem turn_of_stopping (hgoing : s.ended = false) (hstopping : s.stopping = true)
    (horizon : Nat) : s.turn horizon = .finish := by
  rw [turn, hgoing, hstopping]
  rfl

/-- The end of all events is heard when the inbox is empty. -/
theorem turn_of_closed (h : s.Running) (hclosed : s.closed = true) (hinbox : s.inbox = [])
    (horizon : Nat) : s.turn horizon = .finish := by
  rw [turn, h.going, h.unstopped, hinbox, hclosed]
  rfl

/-- A session that finishes on its first turn is over after it. -/
theorem takeTurns_finish {horizon : Nat} (h : s.turn horizon = .finish) (rounds : Nat) :
    takeTurns search horizon (rounds + 2) s = s.finish := by
  rw [takeTurns, takeTurn?, h]
  exact takeTurns_of_rest search (turn_of_ended rfl horizon) rounds

/-- At the end of all events the inbox is handled, and the query that waits is dropped. -/
theorem conclude_running (h : s.Running) :
    (s.conclude search).course = s.course.performAll search (s.deliveries ++ [.cancel]) ∧
    (s.conclude search).ended = true := by
  have hinbox := takeTurns_inbox search (s := { s with closed := true }) s.now 2
    ⟨h.going, h.unstopped⟩
  have hfinish := turn_of_closed (s := { s with closed := true }.settled
    (s.course.performAll search s.deliveries)) ⟨h.going, h.unstopped⟩ rfl rfl s.now
  have hwork : s.conclude search = ({ s with closed := true }.settled
      (s.course.performAll search s.deliveries)).finish :=
    hinbox.trans (takeTurns_finish search hfinish 0)
  rw [hwork, finish_course search, Course.performAll_append]
  exact ⟨rfl, rfl⟩

/-- The session was on the course `c` when it was asked to stop: it has ended on it, or will. -/
def Stopped (search : String → Buckets) (c : Course) (s : Session) : Prop :=
  (s.ended = true ∧ s.course = c.perform search .cancel) ∨
  (s.ended = false ∧ s.stopping = true ∧ s.course = c)

variable {search} in
/-- Working does not lead away from the course on which the session stops. -/
theorem stopped_work {c : Course} (h : s.Stopped search c) (horizon : Nat) :
    (s.work search horizon).ended = true ∧
    (s.work search horizon).course = c.perform search .cancel := by
  rcases h with ⟨hended, hcourse⟩ | ⟨hgoing, hstopping, hcourse⟩
  · have hwork : s.work search horizon = s :=
      takeTurns_of_rest search (turn_of_ended hended horizon) (s.inbox.length + 1)
    rw [hwork]
    exact ⟨hended, hcourse⟩
  · have hwork : s.work search horizon = s.finish :=
      takeTurns_finish search (turn_of_stopping hgoing hstopping horizon) s.inbox.length
    rw [hwork, finish_course search, hcourse]
    exact ⟨rfl, rfl⟩

variable {search} in
/-- Nothing that is done afterwards leads away from it either. -/
theorem stopped_step {c : Course} (h : s.Stopped search c) (act : Act) :
    (s.step search act).Stopped search c := by
  cases act with
  | send e =>
    rw [step]
    split
    · exact h
    · exact h
  | wait duration =>
    rw [step, wait]
    split
    · exact h
    · exact .inl (stopped_work h _)
  | stop =>
    rcases h with hended | ⟨hgoing, -, hcourse⟩
    · exact .inl hended
    · exact .inr ⟨hgoing, rfl, hcourse⟩

variable {search} in
/-- Whatever is done after a request to stop, the session ends on the course that it was on. -/
theorem stopped_run {c : Course} (h : s.Stopped search c) (acts : List Act) :
    ((acts.foldl (step search) s).conclude search).ended = true ∧
    ((acts.foldl (step search) s).conclude search).course = c.perform search .cancel := by
  induction acts generalizing s with
  | nil => exact stopped_work (s := { s with closed := true }) h s.now
  | cons act acts ih => exact ih (stopped_step h act)

end Session

/-! ## Scripts, and the ideal clock

  A script forgets how long a session slept and keeps the times only.  The clock reads the same
  script instant by instant. -/

/-- What reaches a session: the events, with the times at which they arrive, and the time at which no
    more of them come, or at which the session is asked to stop. -/
structure Script where
  arrivals : List (Nat × Event)
  ending : Nat
  /-- is the session asked to stop? -/
  stopped : Bool
  deriving DecidableEq

namespace Script

/-- The script of what is done to a session from the time `now` on. -/
def ofActs (now : Nat) : List Act → Script
  | [] => ⟨[], now, false⟩
  | .send e :: acts => { ofActs now acts with arrivals := (now, e) :: (ofActs now acts).arrivals }
  | .wait duration :: acts => ofActs (now + duration) acts
  | .stop :: _ => ⟨[], now, true⟩

/-- The script without the events that arrive at the instant of a request to stop. -/
def heard (s : Script) : Script :=
  { s with arrivals := s.arrivals.filter fun a => !s.stopped || a.1 < s.ending }

/-- The events that arrive at the time `t`. -/
def arriving (s : Script) (t : Nat) : List Operation :=
  (s.arrivals.filter (·.1 = t)).map fun a => .event a.2 a.1

/-- What the ideal clock does at all instants from `start` on and before `t`: it delivers the events
    that arrive, and polls. -/
def before (s : Script) (start t : Nat) : List Operation :=
  (List.range' start (t - start)).flatMap fun instant => s.arriving instant ++ [.poll instant]

/-- All that the ideal clock does.  At the end it drops the query that waits. -/
def ideal (s : Script) (start : Nat) : List Operation :=
  s.before start s.ending ++ s.arriving s.ending ++ [.cancel]

/-- Neither an event nor the end comes at the very instant at which a query falls due. -/
def AvoidsDeadlines (search : String → Buckets) (c : Course) (start : Nat) (s : Script) : Prop :=
  ∀ t ∈ s.ending :: s.arrivals.map Prod.fst,
    (c.performAll search (s.heard.before start t)).dropdown.deadline? ≠ some t

/-- The script with events that arrive at `now`, before all others. -/
def preceded (s : Script) (now : Nat) (events : List Event) : Script :=
  { s with arrivals := events.map (now, ·) ++ s.arrivals }

/-! ### The script of a session, step by step

  A session that has waited leaves a script with a later start.  The lemmas cut a script there:
  events of the first instant, polls up to the next one, and what the rest of the script brings. -/

/-- Nothing in a script comes before its start. -/
theorem ofActs_late (now : Nat) (acts : List Act) :
    now ≤ (ofActs now acts).ending ∧ ∀ a ∈ (ofActs now acts).arrivals, now ≤ a.1 := by
  induction acts generalizing now with
  | nil => exact ⟨Nat.le_refl _, fun a ha => nomatch ha⟩
  | cons act acts ih =>
    cases act with
    | send e =>
      refine ⟨(ih now).1, fun a ha => ?_⟩
      rcases List.mem_cons.mp ha with rfl | ha
      · exact Nat.le_refl _
      · exact (ih now).2 a ha
    | wait duration =>
      have hlater := ih (now + duration)
      exact ⟨Nat.le_trans (Nat.le_add_right ..) hlater.1,
        fun a ha => Nat.le_trans (Nat.le_add_right ..) (hlater.2 a ha)⟩
    | stop => exact ⟨Nat.le_refl _, fun a ha => nomatch ha⟩

/-- The events arrive one after another, between the start and the ending. -/
def Ordered (s : Script) (start : Nat) : Prop :=
  (start :: s.arrivals.map Prod.fst ++ [s.ending]).Pairwise (· ≤ ·)

/-- Whatever arrives in order is what reaches some session. -/
theorem exists_ofActs_eq {s : Script} {start : Nat} (h : s.Ordered start) :
    ∃ acts, ofActs start acts = s := by
  obtain ⟨arrivals, ending, stopped⟩ := s
  induction arrivals generalizing start with
  | nil =>
    have hending : start ≤ ending := by simpa [Ordered] using h
    have hwait : start + (ending - start) = ending := by omega
    cases stopped with
    | false => exact ⟨[.wait (ending - start)], by rw [ofActs, ofActs, hwait]⟩
    | true => exact ⟨[.wait (ending - start), .stop], by rw [ofActs, ofActs, hwait]⟩
  -- wait for the first event and send it; the others follow by induction
  | cons a arrivals ih =>
    obtain ⟨t, e⟩ := a
    obtain ⟨hstart, hlater⟩ := List.pairwise_cons.mp h
    obtain ⟨acts, hacts⟩ := ih hlater
    have hwait : start + (t - start) = t := by
      have := hstart t List.mem_cons_self
      omega
    exact ⟨.wait (t - start) :: .send e :: acts, by rw [ofActs, ofActs, hwait, hacts]⟩

variable {s : Script} {now t : Nat} (events : List Event)

theorem arriving_of_late (h : ∀ a ∈ s.arrivals, t < a.1) : s.arriving t = [] := by
  rw [arriving, List.map_eq_nil_iff, List.filter_eq_nil_iff]
  intro a ha
  have := h a ha
  simp only [decide_eq_true_eq]
  omega

/-- At `now` the preceding events arrive, and the others come later. -/
theorem arriving_preceded_now (h : ∀ a ∈ s.arrivals, now < a.1) :
    (s.preceded now events).arriving now = events.map (.event · now) := by
  rw [arriving, preceded, List.filter_append, List.map_append]
  have hlate : (s.arrivals.filter (·.1 = now)).map (fun a => Operation.event a.2 a.1) = [] :=
    arriving_of_late h
  rw [hlate, List.append_nil, List.filter_eq_self.mpr, List.map_map]
  · rfl
  · simp

/-- At any later time they make no difference. -/
theorem arriving_preceded_later (h : now < t) :
    (s.preceded now events).arriving t = s.arriving t := by
  rw [arriving, preceded, List.filter_append, List.filter_eq_nil_iff.mpr]
  · rfl
  · simp
    omega

theorem before_self (s : Script) (start : Nat) : s.before start start = [] := by
  rw [before, Nat.sub_self]
  rfl

theorem heard_late (h : ∀ a ∈ s.arrivals, t ≤ a.1) : ∀ a ∈ s.heard.arrivals, t ≤ a.1 :=
  fun a ha => h a (List.mem_filter.mp ha).1

/-- Events that arrive before the request to stop are heard. -/
theorem heard_preceded (h : now < s.ending) :
    (s.preceded now events).heard = s.heard.preceded now events := by
  rw [heard, preceded, List.filter_append, List.filter_eq_self.mpr]
  · rfl
  · simp [h]

/-- What the ideal clock does up to `t` starts with the events of the first instant and the polls up to
    the next time at which something may arrive. -/
theorem before_preceded {n : Nat} (hlate : ∀ a ∈ s.arrivals, now + (n + 1) ≤ a.1)
    (ht : now + (n + 1) ≤ t) :
    (s.preceded now events).before now t =
      events.map (.event · now) ++ Course.polls now (n + 1) ++ s.before (now + (n + 1)) t := by
  -- the first instant, those in which nothing arrives, and the rest
  have hrange : List.range' now (t - now) =
      (now :: List.range' (now + 1) n) ++ List.range' (now + (n + 1)) (t - (now + (n + 1))) := by
    rw [show t - now = n + 1 + (t - (now + (n + 1))) by omega, ← List.range'_append_1]
    rfl
  have hfirst : (s.preceded now events).arriving now = events.map (.event · now) :=
    arriving_preceded_now events fun a ha => by
      have := hlate a ha
      omega
  have hidle : (List.range' (now + 1) n).flatMap
      (fun instant => (s.preceded now events).arriving instant ++ [Operation.poll instant]) =
      Course.polls (now + 1) n := by
    rw [Course.polls, List.map_eq_flatMap, List.flatMap_def, List.flatMap_def]
    refine congrArg _ (List.map_congr_left fun instant hinstant => ?_)
    have hbounds := List.mem_range'_1.mp hinstant
    rw [arriving_preceded_later events (by omega), arriving_of_late fun a ha => by
      have := hlate a ha
      omega]
    rfl
  have hrest : (List.range' (now + (n + 1)) (t - (now + (n + 1)))).flatMap
      (fun instant => (s.preceded now events).arriving instant ++ [Operation.poll instant]) =
      s.before (now + (n + 1)) t := by
    rw [before, List.flatMap_def, List.flatMap_def]
    refine congrArg _ (List.map_congr_left fun instant hinstant => ?_)
    have hbounds := List.mem_range'_1.mp hinstant
    rw [arriving_preceded_later events (by omega)]
  rw [before, hrange, List.flatMap_append, List.flatMap_cons, hfirst, hidle, hrest]
  simp [Course.polls, List.range'_succ]

/-- If no event arrives at the instant of a request to stop, all are heard. -/
theorem heard_of_early (h : s.stopped = true → ∀ a ∈ s.arrivals, a.1 < s.ending) :
    s.heard = s := by
  rw [heard, List.filter_eq_self.mpr]
  intro a ha
  cases hstopped : s.stopped with
  | false => rfl
  | true => exact decide_eq_true (h hstopped a ha)

theorem preceded_nil (s : Script) (now : Nat) : s.preceded now [] = s := rfl

/-- What avoids the deadlines avoids them also behind the first interval. -/
theorem avoidsDeadlines_later {search : String → Buckets} {c : Course} {n : Nat}
    (hlate : ∀ a ∈ s.arrivals, now + (n + 1) ≤ a.1) (hending : now + (n + 1) ≤ s.ending)
    (h : (s.preceded now events).AvoidsDeadlines search c now) :
    s.AvoidsDeadlines search
      (c.performAll search (events.map (.event · now) ++ Course.polls now (n + 1)))
      (now + (n + 1)) := by
  intro t ht
  have hlater : now + (n + 1) ≤ t := by
    rcases List.mem_cons.mp ht with rfl | ht
    · exact hending
    · obtain ⟨a, ha, rfl⟩ := List.mem_map.mp ht
      exact hlate a ha
  have hmem : t ∈ (s.preceded now events).ending ::
      (s.preceded now events).arrivals.map Prod.fst := by
    rw [preceded, List.map_append]
    rcases List.mem_cons.mp ht with rfl | ht
    · exact List.mem_cons_self
    · exact List.mem_cons_of_mem _ (List.mem_append_right _ ht)
  have hbefore := h t hmem
  rw [heard_preceded events (by omega),
    before_preceded events (heard_late hlate) hlater, Course.performAll_append] at hbefore
  exact hbefore

/-- What is left of a script that ends as soon as its first events have come. -/
theorem ideal_of_closing (now : Nat) :
    ((⟨[], now, false⟩ : Script).preceded now events).heard.ideal now =
      events.map (.event · now) ++ [.cancel] := by
  have hheard : ((⟨[], now, false⟩ : Script).preceded now events).heard =
      (⟨[], now, false⟩ : Script).preceded now events := by
    simp [heard, preceded]
  rw [hheard, ideal]
  show _ ++ ((⟨[], now, false⟩ : Script).preceded now events).arriving now ++ _ = _
  rw [arriving_preceded_now events (by simp)]
  exact congrArg (· ++ _ ++ _) (before_self _ now)

/-- With a request to stop, not even these are delivered. -/
theorem ideal_of_stopping (now : Nat) :
    ((⟨[], now, true⟩ : Script).preceded now events).heard.ideal now = [.cancel] := by
  have hheard : ((⟨[], now, true⟩ : Script).preceded now events).heard = ⟨[], now, true⟩ := by
    simp [heard, preceded]
  rw [hheard, ideal]
  exact congrArg (· ++ _ ++ _) (before_self _ now)

/-- The ideal clock goes on behind the first interval in which nothing arrives. -/
theorem ideal_preceded {n : Nat} (hlate : ∀ a ∈ s.arrivals, now + (n + 1) ≤ a.1)
    (hending : now + (n + 1) ≤ s.ending) :
    (s.preceded now events).heard.ideal now =
      events.map (.event · now) ++ Course.polls now (n + 1) ++ s.heard.ideal (now + (n + 1)) := by
  rw [heard_preceded events (by omega), ideal, ideal,
    show (s.heard.preceded now events).ending = s.ending from rfl,
    show s.heard.ending = s.ending from rfl, before_preceded events (heard_late hlate) hending,
    arriving_preceded_later events (by omega)]
  simp only [List.append_assoc]

end Script

/-! ## The session in step with the clock

  The two do not agree at all times.  The session polls when it wakes, at the end of an interval;
  the clock comes to that instant only later, behind the events that arrive at it. -/

namespace Session

/-- The session is in step with the course `c` of the ideal clock, which has done all before the
    present instant: it is on the same course, or it has already made the poll of this instant. -/
def InStep (search : String → Buckets) (s : Session) (c : Course) : Prop :=
  s.course = c ∨
  (s.inbox = [] ∧ s.course = c.perform search (.poll s.now) ∧
    ∀ w, c.dropdown.quiet.waiting = some w → s.now ≤ w.deadline)

variable {search : String → Buckets} {s : Session} {c : Course}

/-- If no query falls due at the present instant, the poll that was made early makes no difference. -/
theorem InStep.course_eq (h : s.InStep search c) (hdue : c.dropdown.deadline? ≠ some s.now) :
    s.course = c := by
  rcases h with h | ⟨-, hpoll, hahead⟩
  · exact h
  · rw [hpoll]
    refine Course.poll_of_early fun w hw => Nat.lt_of_le_of_ne (hahead w hw) fun heq => hdue ?_
    rw [Dropdown.deadline?, QuietPeriod.deadline?, hw, heq]
    rfl

/-- **The step**: time that passes keeps the session in step. -/
theorem inStep_wait (h : s.Running) (hopen : s.closed = false) (hstep : s.InStep search c) (n : Nat) :
    (s.wait search (n + 1)).InStep search
      (c.performAll search (s.deliveries ++ Course.polls s.now (n + 1))) := by
  rw [wait_eq search h hopen (Nat.succ_pos n), Course.performAll_append]
  refine .inr ⟨rfl, ?_, fun w hw => ?_⟩
  · -- one poll at the end is all polls of the interval
    show (s.course.performAll search s.deliveries).perform search (.poll (s.now + (n + 1))) =
      ((c.performAll search s.deliveries).performAll search (Course.polls s.now (n + 1))).perform
        search (.poll (s.now + (n + 1)))
    rw [Course.polls_absorbed]
    -- whether or not the poll of the first instant was made early, it is absorbed
    rcases hstep with hcourse | ⟨hinbox, hpoll, -⟩
    · rw [hcourse]
    · rw [deliveries, hinbox, hpoll]
      exact Course.poll_absorbed (Nat.le_add_right ..)
  · exact Course.early_of_polls s.now n _ w hw

/-- **The run**: from a session in step on, all that is still done to it leads to where the ideal clock
    leads. -/
theorem run_of_inStep (acts : List Act) (h : s.Running) (hopen : s.closed = false)
    (hstep : s.InStep search c)
    (havoids : ((Script.ofActs s.now acts).preceded s.now s.inbox).AvoidsDeadlines search c s.now) :
    ((acts.foldl (step search) s).conclude search).ended = true ∧
    ((acts.foldl (step search) s).conclude search).course =
      c.performAll search (((Script.ofActs s.now acts).preceded s.now s.inbox).heard.ideal s.now) := by
  induction acts generalizing s c with
  -- no more events come: the inbox is delivered, and the session ends
  | nil =>
    have hcourse : s.course = c := hstep.course_eq (by
      have hend := havoids s.now List.mem_cons_self
      rwa [Script.before_self] at hend)
    obtain ⟨hconclude, hended⟩ := conclude_running search h
    refine ⟨hended, hconclude.trans ?_⟩
    rw [hcourse, Script.ofActs, Script.ideal_of_closing]
    rfl
  | cons act acts ih =>
    cases act with
    -- an event that arrives joins those of the present instant
    | send e =>
      have hcourse : s.course = c := hstep.course_eq (by
        have harrival := havoids s.now (List.mem_cons_of_mem _ (List.mem_map.mpr
          ⟨(s.now, e), List.mem_append_right _ List.mem_cons_self, rfl⟩))
        rwa [Script.before_self] at harrival)
      have hsend : s.step search (.send e) = { s with inbox := s.inbox ++ [e] } := by
        rw [step, h.going]
        rfl
      have hscript : (Script.ofActs s.now (.send e :: acts)).preceded s.now s.inbox =
          (Script.ofActs s.now acts).preceded s.now (s.inbox ++ [e]) := by
        simp [Script.ofActs, Script.preceded]
      rw [hscript] at havoids ⊢
      rw [List.foldl_cons, hsend]
      exact ih (s := { s with inbox := s.inbox ++ [e] }) ⟨h.going, h.unstopped⟩ hopen
        (.inl hcourse) havoids
    | wait duration =>
      cases duration with
      -- no time has passed
      | zero => exact ih h hopen hstep havoids
      -- time passes, and the clock goes through the instants in between
      | succ n =>
        obtain ⟨hending, hlate⟩ := Script.ofActs_late (s.now + (n + 1)) acts
        obtain ⟨hrunning, hstill, hnow, hinbox⟩ := running_wait search h hopen (Nat.succ_pos n)
        have hrun := ih hrunning hstill (inStep_wait h hopen hstep n)
        rw [hnow, hinbox, Script.preceded_nil] at hrun
        obtain ⟨hended, hcourse⟩ :=
          hrun (Script.avoidsDeadlines_later s.inbox hlate hending havoids)
        refine ⟨hended, hcourse.trans ?_⟩
        rw [Script.ofActs, Script.ideal_preceded s.inbox hlate hending]
        exact (Course.performAll_append _ _).symm
    -- whatever is still done, the course is the one that the session is on now
    | stop =>
      have hcourse : s.course = c := hstep.course_eq (by
        have hend := havoids s.now List.mem_cons_self
        rwa [Script.before_self] at hend)
      rw [Script.ofActs, Script.ideal_of_stopping]
      exact stopped_run (s := { s with stopping := true }) (.inr ⟨h.going, rfl, hcourse⟩) acts

/-- **A session is the ideal clock.**  Whatever is done to a session that begins at `start`, if neither
    an event nor the end comes at the very instant at which a query falls due, then the session ends,
    with the same calls, the same queries and the same dropdown as if the events had been delivered to
    the bare dropdown with a poll at every instant before the end.  Nothing waits any longer, and no
    further turn is taken.  Of the events, only those that arrive at the instant of a request to stop
    are not delivered: if there are none of them, all are.

    What is assumed of the schedule: all that arrives at one instant reaches the session together, and it
    takes no turn in between (`Session.wait` takes turns only when time passes).  A script knows times and
    no order of turns within an instant, so nothing else can be said in its terms.  A session that did take
    a turn in between could be told apart in two ways: it would deliver an event that comes together with
    a request to stop, and with a delay of zero it would ask for a text that the next event of the same
    instant replaces. -/
theorem session_refines_ideal_clock (search : String → Buckets) (d : Dropdown) (acts : List Act)
    (start : Nat)
    (avoids : (Script.ofActs start acts).AvoidsDeadlines search ⟨d, [], []⟩ start) :
    (Session.run search d acts start).course =
      Course.performAll search ⟨d, [], []⟩ ((Script.ofActs start acts).heard.ideal start) ∧
    (Session.run search d acts start).dropdown.panel.awaited = none ∧
    (Session.run search d acts start).dropdown.deadline? = none ∧
    (∀ horizon, (Session.run search d acts start).takeTurn? search horizon = none) ∧
    (((Script.ofActs start acts).stopped = true →
        ∀ a ∈ (Script.ofActs start acts).arrivals, a.1 < (Script.ofActs start acts).ending) →
      (Script.ofActs start acts).heard = Script.ofActs start acts) := by
  obtain ⟨hended, hcourse⟩ : (Session.run search d acts start).ended = true ∧
      (Session.run search d acts start).course =
        Course.performAll search ⟨d, [], []⟩ ((Script.ofActs start acts).heard.ideal start) :=
    run_of_inStep (s := { dropdown := d, now := start }) acts ⟨rfl, rfl⟩ rfl (.inl rfl) avoids
  have hidle : (Session.run search d acts start).dropdown.panel.awaited = none ∧
      (Session.run search d acts start).dropdown.deadline? = none := by
    rw [show (Session.run search d acts start).dropdown = _ from congrArg Course.dropdown hcourse]
    exact Course.idle_of_cancel _ _
  refine ⟨hcourse, hidle.1, hidle.2, fun horizon => ?_, fun hearly => ?_⟩
  · rw [takeTurn?, turn_of_ended hended]
  · exact Script.heard_of_early hearly

/-- Two texts within one delay of three instants: the first is never asked. -/
def retyping : List Act :=
  [.send (.input "ab"), .wait 2, .send (.input "abc"), .wait 5, .send .arrowDown, .wait 1, .stop]

/-- What a session does with it, by the theorem and by the calls. -/
theorem retyping_asks_once :
    (Script.ofActs 10 retyping).AvoidsDeadlines (fun _ => {}) ⟨Dropdown.withDelay {} 3, [], []⟩ 10 ∧
    (Session.run (fun _ => {}) (Dropdown.withDelay {} 3) retyping 10).course =
      Course.performAll (fun _ => {}) ⟨Dropdown.withDelay {} 3, [], []⟩
        ((Script.ofActs 10 retyping).heard.ideal 10) ∧
    (Session.run (fun _ => {}) (Dropdown.withDelay {} 3) retyping 10).asked = ["abc"] := by
  have avoids : (Script.ofActs 10 retyping).AvoidsDeadlines (fun _ => {})
      ⟨Dropdown.withDelay {} 3, [], []⟩ 10 := by
    rw [Script.AvoidsDeadlines]
    decide
  exact ⟨avoids, (session_refines_ideal_clock _ _ retyping 10 avoids).1, by decide⟩

/-- Not every event of a script is delivered: what arrives at the instant of a request to stop is
    dropped, and the ideal clock would have told the display of it. -/
theorem stop_drops_arrivals :
    (Script.ofActs 0 [.send (.input "ab"), .stop]).AvoidsDeadlines (fun _ => {}) ⟨{}, [], []⟩ 0 ∧
    (Session.run (fun _ => {}) {} [.send (.input "ab"), .stop]).calls = [] ∧
    (Course.performAll (fun _ => {}) ⟨{}, [], []⟩
      ((Script.ofActs 0 [.send (.input "ab"), .stop]).ideal 0)).calls = [.showClear true] := by
  refine ⟨?_, by decide, by decide⟩
  rw [Script.AvoidsDeadlines]
  decide

end Session
end DocIndex
