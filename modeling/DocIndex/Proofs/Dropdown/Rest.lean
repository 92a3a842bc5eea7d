/-
  THE QUIET PERIOD over whole runs.

  Which query a poll asks depends on all that was done before it: when the last text was entered,
  and whether anything has come in between.  The state of the dropdown keeps no more of that than
  one waiting query with its deadline.

  1. **Specification** — `Run.Undisturbed query time k i` is said of the history alone: `query` was
     entered at place `k` at `time`, it is long enough, and nothing from there to place `i` has put
     an end to its wait (`Dropdown.Interrupts`).

  2. **The crux** (`waiting_iff`) — the waiting query of a state is the undisturbed entry of its
     history.  One step lemma (`next_waiting_iff`: a query waits afterwards if it was just entered,
     or if it waited and was not interrupted) meets one lemma about histories
     (`undisturbed_succ_iff`), and the induction on the place in the run has nothing left to do.

  3. **Main statement** (`asks_exactly_what_has_rested`) — a poll asks a query exactly if the query
     was entered, has rested for the delay, and is undisturbed.  So every entry is asked at most
     once, only the latest text is asked, and a panel that was closed stays closed until a new text
     is entered.

  The state does not say why a query waits or since when; the history does, and says nothing of
  deadlines.  To speak of histories costs one definition, `Interrupts`, with a line for each
  operation.  It is the one to look at if there are ever more of them.
-/
import DocIndex.Proofs.Dropdown.Run

namespace DocIndex

/-! ## Entering a text, and ending a wait

  The words of the specification.  Nothing here mentions deadlines: an operation enters a text, or
  it interrupts, or it does neither. -/

/-- The operation enters `text` at `time`. -/
def Operation.Enters (op : Operation) (text : String) (time : Nat) : Prop :=
  op = .event (.input text) time ∨ op = .event (.focus text) time

/-- The operation enters no text that could be searched for. -/
def Operation.Silent (op : Operation) : Prop :=
  ∀ text time, op.Enters text time → ¬ 2 ≤ text.length

theorem Operation.enters_event {e : Event} {text : String} (h : e = .input text ∨ e = .focus text)
    (now : Nat) : Operation.Enters (.event e now) text now := by
  rcases h with rfl | rfl
  · exact .inl rfl
  · exact .inr rfl

/-- From this operation on `text` is the latest text.  Focus on a short text changes nothing. -/
def Operation.Retypes (op : Operation) (text : String) : Prop :=
  (∃ time, op = .event (.input text) time) ∨
    (∃ time, op = .event (.focus text) time) ∧ 2 ≤ text.length

namespace Dropdown

/-- Does the operation put an end to every wait that began before it? -/
def Interrupts (search : String → Buckets) (d : Dropdown) : Operation → Prop
  | .event (.input _) _ => True
  | .event (.focus text) _ => 2 ≤ text.length
  | .event .arrowDown _ => False
  | .event .arrowUp _ => False
  | .event .enter _ => ∃ target, .navigate target ∈ d.enter.calls
  | .event .escape _ => True
  | .event (.hover _) _ => False
  | .event (.activate _) _ => True
  | .event .outside _ => True
  | .event .clear _ => True
  | .poll now => (d.poll search now).asked ≠ []
  | .close => True
  | .cancel => True

theorem isSearchable_iff (text : String) : isSearchable text = true ↔ 2 ≤ text.length :=
  decide_eq_true_iff

variable {search : String → Buckets} {d : Dropdown} {op : Operation}

/-- A new text ends the wait of every earlier one. -/
theorem interrupts_of_enters {text : String} {time : Nat} (h : op.Enters text time)
    (long : 2 ≤ text.length) : d.Interrupts search op := by
  rcases h with rfl | rfl
  · trivial
  · exact long

/-- So does every change of the latest text, also to one that is too short to wait itself. -/
theorem interrupts_of_retypes {text : String} (h : op.Retypes text) : d.Interrupts search op := by
  rcases h with ⟨time, rfl⟩ | ⟨⟨time, rfl⟩, long⟩
  · trivial
  · exact long

/-! ## What one operation does to the query that waits

  There is one query at most, and an operation puts another in its place, drops it or leaves it.
  Which of these it is can be seen from the operation, with two exceptions: Enter and a poll
  interrupt only if they act. -/

/-- A text that is entered waits, from its time on and for the delay, whatever waited before. -/
theorem waiting_of_enters {text : String} {time : Nat} (h : op.Enters text time)
    (long : 2 ≤ text.length) :
    (d.perform search op).next.quiet.waiting = some ⟨text, time + d.quiet.delay⟩ := by
  have hs : isSearchable text = true := (isSearchable_iff text).mpr long
  have hinput : (d.input text time).next.quiet.waiting = some ⟨text, time + d.quiet.delay⟩ := by
    rw [Dropdown.input, if_pos hs]
    rfl
  rcases h with rfl | rfl
  · exact hinput
  · show (d.focus text time).next.quiet.waiting = _
    rw [focus, if_pos hs]
    exact hinput

/-- An operation that interrupts and enters nothing leaves no query waiting. -/
theorem waiting_of_interrupts (hi : d.Interrupts search op) (hn : op.Silent) :
    (d.perform search op).next.quiet.waiting = none := by
  cases op with
  | event e now =>
    cases e with
    | input text =>
      have hs : ¬ isSearchable text = true :=
        fun h => hn text now (.inl rfl) ((isSearchable_iff text).mp h)
      show (d.input text now).next.quiet.waiting = none
      rw [Dropdown.input, if_neg hs]
      rfl
    | focus text => exact absurd hi (hn text now (.inr rfl))
    | arrowDown => exact hi.elim
    | arrowUp => exact hi.elim
    | hover row => exact hi.elim
    | enter =>
      -- Enter goes to a row only by closing the panel
      obtain ⟨target, ht⟩ := hi
      show d.enter.next.quiet.waiting = none
      have ho := enter_outcome search d now
      generalize d.enter = reaction at ho ht
      cases ho with
      | close closes => rfl
      | wait entered long => simp at ht
      | select rows bound => simp [select] at ht
      | nothing => simp [unmoved] at ht
    | escape => rfl
    | activate e => rfl
    | outside => rfl
    | clear => rfl
  | poll now =>
    have ha : (d.poll search now).asked ≠ [] := hi
    show (d.poll search now).next.quiet.waiting = none
    have ho := poll_outcome search d now
    generalize d.poll search now = reaction at ho ha
    cases ho with
    | ask waits due => rfl
    | close closes => rfl
    | select rows bound => exact absurd rfl ha
    | nothing => exact absurd rfl ha
  | close => rfl
  | cancel => rfl

/-- An operation that does not interrupt leaves the query that waits alone. -/
theorem waiting_of_not_interrupts (hi : ¬ d.Interrupts search op) :
    (d.perform search op).next.quiet.waiting = d.quiet.waiting := by
  cases op with
  | event e now =>
    cases e with
    | input text => exact absurd trivial hi
    | focus text =>
      have hs : ¬ isSearchable text = true := fun h => hi ((isSearchable_iff text).mp h)
      show (d.focus text now).next.quiet.waiting = _
      rw [focus, if_neg hs]
      rfl
    | arrowDown =>
      show d.arrowDown.next.quiet.waiting = _
      rw [arrowDown]
      split <;> rfl
    | arrowUp =>
      show d.arrowUp.next.quiet.waiting = _
      rw [arrowUp]
      split <;> rfl
    | hover row =>
      show (d.hover row).next.quiet.waiting = _
      rw [hover]
      split <;> rfl
    | enter =>
      -- Enter went nowhere, so it found no selected row or a closed panel
      have hnone : ∀ target, .navigate target ∉ d.enter.calls := fun t ht => hi ⟨t, ht⟩
      show d.enter.next.quiet.waiting = _
      rw [enter] at hnone ⊢
      split
      · rename_i e he
        rw [he] at hnone
        split
        · rename_i hopen
          simp [hopen, activate] at hnone
        · rfl
      · rfl
    | escape => exact absurd trivial hi
    | activate e => exact absurd trivial hi
    | outside => exact absurd trivial hi
    | clear => exact absurd trivial hi
  | poll now =>
    have ha : ¬ (d.poll search now).asked ≠ [] := hi
    show (d.poll search now).next.quiet.waiting = _
    rw [poll] at ha ⊢
    split
    · rfl
    · -- a query that was due would have been asked
      rename_i query quiet hdue
      rw [hdue] at ha
      simp at ha
  | close => exact absurd trivial hi
  | cancel => exact absurd trivial hi

/-- **The step**: a query waits after an operation exactly if it was just entered, or if it waited
    before and was not interrupted. -/
theorem next_waiting_iff (w : Waiting) :
    (d.perform search op).next.quiet.waiting = some w ↔
      (∃ text time, op.Enters text time ∧ 2 ≤ text.length ∧ w = ⟨text, time + d.quiet.delay⟩) ∨
      (d.quiet.waiting = some w ∧ ¬ d.Interrupts search op) := by
  -- a new text comes first: it interrupts as well, and what it interrupts it replaces
  by_cases he : ∃ text time, op.Enters text time ∧ 2 ≤ text.length
  · obtain ⟨text, time, henters, long⟩ := he
    constructor
    · intro h
      rw [waiting_of_enters henters long] at h
      cases h
      exact .inl ⟨text, time, henters, long, rfl⟩
    · rintro (⟨text', time', henters', long', rfl⟩ | ⟨-, hi⟩)
      · exact waiting_of_enters henters' long'
      · exact absurd (interrupts_of_enters henters long) hi
  · have hn : op.Silent := fun text time henters long => he ⟨text, time, henters, long⟩
    by_cases hi : d.Interrupts search op
    · rw [waiting_of_interrupts hi hn]
      constructor
      · nofun
      · rintro (⟨text, time, henters, long, -⟩ | ⟨-, hi'⟩)
        · exact absurd long (hn text time henters)
        · exact absurd hi hi'
    · rw [waiting_of_not_interrupts hi]
      constructor
      · exact fun h => .inr ⟨h, hi⟩
      · rintro (⟨text, time, henters, long, -⟩ | ⟨h, -⟩)
        · exact absurd long (hn text time henters)
        · exact h

/-- A poll asks the query that waits, once it is due. -/
theorem poll_asked_iff (now : Nat) (query : String) :
    (d.poll search now).asked = [query] ↔
      ∃ deadline, d.quiet.waiting = some ⟨query, deadline⟩ ∧ deadline ≤ now := by
  rw [poll, QuietPeriod.takeDue]
  cases d.quiet.waiting with
  | none => simp [unmoved]
  | some w =>
    by_cases due : w.deadline ≤ now
    · constructor
      · intro h
        have hq : w.query = query := by simpa [due] using h
        exact ⟨w.deadline, by rw [← hq], due⟩
      · rintro ⟨deadline, h, -⟩
        cases h
        simp [due]
    · constructor
      · intro h
        simp [due, unmoved] at h
      · rintro ⟨deadline, h, hle⟩
        cases h
        exact absurd hle due

/-- Only a poll asks, it asks one query, and it shows what was found for it. -/
theorem asked_of_ne_nil (h : (d.perform search op).asked ≠ []) :
    ∃ now query, op = .poll now ∧ (d.perform search op).asked = [query] ∧
      (d.perform search op).calls = [.present (search query)] := by
  have ho := outcome search d op
  generalize d.perform search op = reaction at ho h
  cases ho with
  | ask waits due => exact ⟨_, _, rfl, rfl, rfl⟩
  | wait entered long => exact absurd rfl h
  | close closes => exact absurd rfl h
  | cancel => exact absurd rfl h
  | select rows bound => exact absurd rfl h
  | nothing => exact absurd rfl h

/-- What is not asked is not looked at: a search that agrees on the queries that were asked leads
    to the same reaction. -/
theorem perform_congr {other : String → Buckets}
    (h : ∀ query ∈ (d.perform search op).asked, other query = search query) :
    d.perform other op = d.perform search op := by
  cases op with
  | poll now =>
    show d.poll other now = d.poll search now
    have h' : ∀ query ∈ (d.poll search now).asked, other query = search query := h
    rw [poll] at h'
    rw [poll, poll]
    split
    · rfl
    · rename_i query quiet hdue
      rw [hdue] at h'
      rw [h' query (List.mem_singleton.mpr rfl)]
  | event e now => rfl
  | close => rfl
  | cancel => rfl

/-! ## A panel that was closed stays closed

  Answers are what opens a panel, and only a query that waits is answered. -/

/-- The panel is closed and no query waits. -/
def AtRest (d : Dropdown) : Prop := d.panel.isOpen = false ∧ d.quiet.waiting = none

/-- Only a new text disturbs a dropdown at rest. -/
theorem atRest_perform (h : d.AtRest) (hn : op.Silent) :
    (d.perform search op).next.AtRest := by
  have ho := outcome search d op
  generalize d.perform search op = reaction at ho
  cases ho with
  -- only a text could begin to wait
  | @wait e text now entered long =>
    exact absurd ((isSearchable_iff text).mp long)
      (hn text now (Operation.enters_event entered now))
  | close closes => exact ⟨rfl, rfl⟩
  | cancel => exact ⟨h.1, rfl⟩
  | select rows bound =>
    rw [hasRows_iff, h.1] at rows
    cases rows.1
  | ask waits due =>
    rw [h.2] at waits
    cases waits
  | nothing => exact h

/-- An operation closes the panel, or it does not hide it and leaves an open panel open. -/
theorem closed_or_stays_open (search : String → Buckets) (d : Dropdown) (op : Operation) :
    (d.perform search op).next = d.closed ∨
    (.hide ∉ (d.perform search op).calls ∧
      (d.panel.isOpen = true → (d.perform search op).next.panel.isOpen = true)) := by
  have ho := outcome search d op
  generalize d.perform search op = reaction at ho
  cases ho with
  | close closes => exact .inl rfl
  | wait entered long => exact .inr ⟨by simp, id⟩
  | cancel => exact .inr ⟨by simp [Dropdown.cancel], id⟩
  | select rows bound => exact .inr ⟨by simp [select], id⟩
  | ask waits due => exact .inr ⟨by simp, fun _ => rfl⟩
  | nothing => exact .inr ⟨by simp [unmoved], id⟩

/-- An operation that hides the panel, or finds it open and leaves it closed, leaves it at rest. -/
theorem atRest_of_closes (h : .hide ∈ (d.perform search op).calls ∨
      (d.panel.isOpen = true ∧ (d.perform search op).next.panel.isOpen = false)) :
    (d.perform search op).next.AtRest := by
  rcases closed_or_stays_open search d op with hclosed | ⟨hmute, hopen⟩
  · rw [hclosed]
    exact ⟨rfl, rfl⟩
  · rcases h with h | ⟨hwas, his⟩
    · exact absurd h hmute
    · rw [hopen hwas] at his
      cases his

end Dropdown

/-! ## Histories

  A history is looked at from its end, since that is where it grows.  The two notions that look
  back, `Undisturbed` and `Latest`, are about all places between then and now. -/

namespace Run

variable {r : Run}

/-- The operation at place `j` ended every wait that began before it. -/
def Interrupted (r : Run) (j : Nat) : Prop :=
  ∃ op, r.ops[j]? = some op ∧ (r.state j).Interrupts r.search op

/-- At place `k` a text that can be searched for is entered at `time`. -/
def EntersAt (r : Run) (query : String) (time k : Nat) : Prop :=
  (r.ops[k]? = some (.event (.input query) time) ∨ r.ops[k]? = some (.event (.focus query) time)) ∧
    2 ≤ query.length

/-- The query was entered at place `k` at `time`, and up to place `i` nothing has ended its
    wait. -/
structure Undisturbed (r : Run) (query : String) (time k i : Nat) : Prop where
  before : k < i
  entered : r.EntersAt query time k
  calm : ∀ j, k < j → j < i → ¬ r.Interrupted j

/-- The poll at place `i` asks what was entered at place `k`. -/
def Answers (r : Run) (k i : Nat) : Prop :=
  ∃ now query time, r.ops[i]? = some (.poll now) ∧ r.Undisturbed query time k i ∧
    time + r.rest ≤ now

/-- Before place `i`, the text in the input was last changed at place `k`, to `text`. -/
structure Latest (r : Run) (text : String) (k i : Nat) : Prop where
  before : k < i
  typed : ∃ op, r.ops[k]? = some op ∧ op.Retypes text
  last : ∀ j, k < j → j < i → ∀ op other, r.ops[j]? = some op → ¬ op.Retypes other

theorem enters_of_entersAt {query : String} {time k : Nat} (h : r.EntersAt query time k) :
    ∃ op, r.ops[k]? = some op ∧ op.Enters query time := by
  rcases h.1 with h | h
  · exact ⟨_, h, .inl rfl⟩
  · exact ⟨_, h, .inr rfl⟩

theorem entersAt_iff {query : String} {time k : Nat} {op : Operation} (h : r.ops[k]? = some op) :
    r.EntersAt query time k ↔ op.Enters query time ∧ 2 ≤ query.length := by
  rw [EntersAt, h, Option.some_inj, Option.some_inj, Operation.Enters]

theorem interrupted_iff {j : Nat} {op : Operation} (h : r.ops[j]? = some op) :
    r.Interrupted j ↔ (r.state j).Interrupts r.search op := by
  constructor
  · rintro ⟨op', h', hi⟩
    rw [h] at h'
    cases h'
    exact hi
  · exact fun hi => ⟨op, h, hi⟩

/-- Histories grow at their end: an entry is undisturbed one place further on if it was just made,
    or if it was undisturbed and the last operation did not interrupt it. -/
theorem undisturbed_succ_iff {query : String} {time k i : Nat} :
    r.Undisturbed query time k (i + 1) ↔
      (k = i ∧ r.EntersAt query time i) ∨ (r.Undisturbed query time k i ∧ ¬ r.Interrupted i) := by
  constructor
  · -- entered before the last operation, or by it
    rintro ⟨before, entered, calm⟩
    rcases Nat.lt_or_eq_of_le (Nat.le_of_lt_succ before) with hlt | heq
    · refine .inr ⟨⟨hlt, entered, fun j hkj hji => calm j hkj (by omega)⟩, ?_⟩
      exact calm i hlt (Nat.lt_succ_self i)
    · subst heq
      exact .inl ⟨rfl, entered⟩
  · rintro (⟨rfl, entered⟩ | ⟨⟨before, entered, calm⟩, hi⟩)
    · exact ⟨Nat.lt_succ_self k, entered, fun j hkj hjk => by omega⟩
    · refine ⟨by omega, entered, fun j hkj hji => ?_⟩
      rcases Nat.lt_or_eq_of_le (Nat.le_of_lt_succ hji) with hlt | heq
      · exact calm j hkj hlt
      · subst heq
        exact hi

/-- A run starts at rest. -/
theorem atRest_start (r : Run) : r.start.AtRest := by
  rw [start]
  cases r.delay with
  | none => exact ⟨rfl, rfl⟩
  | some delay => exact ⟨rfl, rfl⟩

/-- The delay stays as it was set. -/
theorem state_delay (r : Run) (i : Nat) : (r.state i).quiet.delay = r.rest := by
  refine state_induction (P := fun d => d.quiet.delay = r.rest) ?_ (fun d op h => ?_) i
  · rw [start, rest]
    cases r.delay <;> rfl
  · have ho := Dropdown.outcome r.search d op
    generalize d.perform r.search op = reaction at ho
    cases ho <;> exact h

/-- **The crux**: what waits is the undisturbed entry of the history, from its time on. -/
theorem waiting_iff (r : Run) (i : Nat) (query : String) (deadline : Nat) :
    (r.state i).quiet.waiting = some ⟨query, deadline⟩ ↔
      ∃ k time, r.Undisturbed query time k i ∧ deadline = time + r.rest := by
  induction i with
  | zero =>
    rw [state_zero, r.atRest_start.2]
    constructor
    · nofun
    · rintro ⟨k, time, h, -⟩
      exact absurd h.before (Nat.not_lt_zero k)
  | succ i ih =>
    cases hop : r.ops[i]? with
    | none =>
      -- no operation at place `i`: nothing is entered there and nothing interrupted
      have hquiet : ¬ r.Interrupted i := by
        rintro ⟨op, h, -⟩
        rw [hop] at h
        cases h
      have hmute : ∀ time, ¬ r.EntersAt query time i := by
        rintro time ⟨h | h, -⟩ <;> rw [hop] at h <;> cases h
      rw [state_succ_of_none hop, ih]
      simp only [undisturbed_succ_iff, hquiet, hmute, and_false, false_or, not_false_eq_true,
        and_true]
    | some op =>
      rw [state_succ hop, Dropdown.next_waiting_iff, ih, state_delay, ← interrupted_iff hop]
      constructor
      · rintro (⟨text, time, henters, long, h⟩ | ⟨⟨k, time, hk, rfl⟩, hi⟩)
        · cases h
          have hentered := (entersAt_iff hop).mpr ⟨henters, long⟩
          exact ⟨i, time, undisturbed_succ_iff.mpr (.inl ⟨rfl, hentered⟩), rfl⟩
        · exact ⟨k, time, undisturbed_succ_iff.mpr (.inr ⟨hk, hi⟩), rfl⟩
      · rintro ⟨k, time, hk, rfl⟩
        rcases undisturbed_succ_iff.mp hk with ⟨-, hentered⟩ | ⟨hk, hi⟩
        · obtain ⟨henters, long⟩ := (entersAt_iff hop).mp hentered
          exact .inl ⟨query, time, henters, long, rfl⟩
        · exact .inr ⟨⟨k, time, hk, rfl⟩, hi⟩

/-- A poll asks exactly the undisturbed entry that has rested. -/
theorem poll_asked_iff_undisturbed (r : Run) (i now : Nat) (query : String) :
    ((r.state i).poll r.search now).asked = [query] ↔
      ∃ k time, r.Undisturbed query time k i ∧ time + r.rest ≤ now := by
  rw [Dropdown.poll_asked_iff]
  constructor
  · rintro ⟨deadline, hw, hle⟩
    obtain ⟨k, time, hk, rfl⟩ := (r.waiting_iff i query deadline).mp hw
    exact ⟨k, time, hk, hle⟩
  · rintro ⟨k, time, hk, hle⟩
    exact ⟨time + r.rest, (r.waiting_iff i query _).mpr ⟨k, time, hk, rfl⟩, hle⟩

/-- One entry is asked at most once: the first poll that asks it ends its wait. -/
theorem answers_le {k i j : Nat} (hi : r.Answers k i) (hj : r.Answers k j) : j ≤ i := by
  obtain ⟨now, query, time, hop, hu, hle⟩ := hi
  obtain ⟨now', query', time', hop', hu', hle'⟩ := hj
  rcases Nat.lt_or_ge i j with hlt | hge
  · -- the earlier of the two polls has asked, and that interrupts
    have hasked : ((r.state i).poll r.search now).asked = [query] :=
      (r.poll_asked_iff_undisturbed i now query).mpr ⟨k, time, hu, hle⟩
    have hint : r.Interrupted i := (interrupted_iff hop).mpr (by
      show ((r.state i).poll r.search now).asked ≠ []
      rw [hasked]
      exact List.cons_ne_nil _ _)
    exact absurd hint (hu'.calm i hu.before hlt)
  · exact hge

/-- An undisturbed entry is the latest text. -/
theorem eq_of_latest {query text : String} {time k l i : Nat} (hu : r.Undisturbed query time k i)
    (hl : r.Latest text l i) : text = query := by
  obtain ⟨op, hop, hop'⟩ := hl.typed
  obtain ⟨op', hk, henters⟩ := enters_of_entersAt hu.entered
  have hretypes : op'.Retypes query := by
    rcases henters with rfl | rfl
    · exact .inl ⟨time, rfl⟩
    · exact .inr ⟨⟨time, rfl⟩, hu.entered.2⟩
  -- a later change of the text would have interrupted the entry, and the entry is itself a change
  rcases Nat.lt_trichotomy k l with hlt | heq | hgt
  · have hint : r.Interrupted l := ⟨op, hop, Dropdown.interrupts_of_retypes hop'⟩
    exact absurd hint (hu.calm l hlt hl.before)
  · -- the same operation, so the same text
    subst heq
    rw [hop] at hk
    cases hk
    rcases henters with rfl | rfl <;>
      rcases hop' with ⟨time', h⟩ | ⟨⟨time', h⟩, -⟩ <;> cases h <;> rfl
  · exact absurd hretypes (hl.last k hgt hu.before op' query hk)

/-! ## Whole runs

  What is left is to read the main statement off the crux. -/

/-- From a place of rest on, the dropdown stays at rest until a text is entered. -/
theorem atRest_or_entersAt {i : Nat} (h : (r.state i).AtRest) :
    ∀ n, (r.state (i + n)).AtRest ∨ ∃ k query time, i ≤ k ∧ k < i + n ∧ r.EntersAt query time k := by
  intro n
  induction n with
  | zero => exact .inl h
  | succ n ih =>
    -- once a text was entered there is nothing more to show
    rcases ih with hrest | ⟨k, query, time, hik, hkn, hentered⟩
    · cases hop : r.ops[i + n]? with
      | none =>
        left
        rw [← Nat.add_assoc, state_succ_of_none hop]
        exact hrest
      | some op =>
        by_cases he : ∃ query time, op.Enters query time ∧ 2 ≤ query.length
        · obtain ⟨query, time, he⟩ := he
          exact .inr ⟨i + n, query, time, by omega, by omega, (entersAt_iff hop).mpr he⟩
        · left
          rw [← Nat.add_assoc, state_succ hop]
          exact Dropdown.atRest_perform hrest fun text time henters long =>
            he ⟨text, time, henters, long⟩
    · exact .inr ⟨k, query, time, hik, by omega, hentered⟩

/-- **Polls ask exactly what has rested.**  In every run:

    * a poll after the first `i` operations asks a query exactly if that query was entered before,
      is undisturbed since, and has rested for the delay;
    * nothing but a poll asks, it asks one query of two characters or more, and no reaction looks
      at the search but for the query that is asked;
    * no entry is asked twice, and what is asked is the latest text;
    * the panel is open only after a text was entered, and one that was hidden or closed is open
      again only if a text was entered since. -/
theorem asks_exactly_what_has_rested (r : Run) :
    (∀ i now query, ((r.state i).poll r.search now).asked = [query] ↔
      ∃ k time, r.Undisturbed query time k i ∧ time + r.rest ≤ now) ∧
    (∀ i op, ((r.state i).perform r.search op).asked ≠ [] →
      ∃ now query, op = .poll now ∧ 2 ≤ query.length ∧
        ((r.state i).perform r.search op).asked = [query] ∧
        ((r.state i).perform r.search op).calls = [.present (r.search query)]) ∧
    (∀ i op other, (∀ query ∈ ((r.state i).perform r.search op).asked,
        other query = r.search query) →
      (r.state i).perform other op = (r.state i).perform r.search op) ∧
    (∀ k i j, r.Answers k i → r.Answers k j → i = j) ∧
    (∀ i now query, ((r.state i).poll r.search now).asked = [query] →
      ∀ text k, r.Latest text k i → text = query) ∧
    (∀ j, (r.state j).panel.isOpen = true → ∃ k query time, k < j ∧ r.EntersAt query time k) ∧
    (∀ i j op, r.ops[i]? = some op → i < j →
      (.hide ∈ ((r.state i).perform r.search op).calls ∨
        ((r.state i).panel.isOpen = true ∧ (r.state (i + 1)).panel.isOpen = false)) →
      (r.state j).panel.isOpen = true →
      ∃ k query time, i < k ∧ k < j ∧ r.EntersAt query time k) := by
  refine ⟨r.poll_asked_iff_undisturbed, fun i op hne => ?_, fun i op other h => ?_,
    fun k i j hi hj => ?_, fun i now query hasked text k hl => ?_, fun j hopen => ?_,
    fun i j op hop hij hcloses hopen => ?_⟩
  · obtain ⟨now, query, rfl, hasked, hcalls⟩ := Dropdown.asked_of_ne_nil hne
    obtain ⟨k, time, hu, -⟩ := (r.poll_asked_iff_undisturbed i now query).mp hasked
    exact ⟨now, query, rfl, hu.entered.2, hasked, hcalls⟩
  · exact Dropdown.perform_congr h
  · exact Nat.le_antisymm (answers_le hj hi) (answers_le hi hj)
  · obtain ⟨l, time, hu, -⟩ := (r.poll_asked_iff_undisturbed i now query).mp hasked
    exact eq_of_latest hu hl
  · rw [← Nat.zero_add j] at hopen ⊢
    rcases atRest_or_entersAt (i := 0) r.atRest_start j with
      ⟨hclosed, -⟩ | ⟨k, query, time, -, hkj, hentered⟩
    · exact absurd (hopen.symm.trans hclosed) (by decide)
    · exact ⟨k, query, time, hkj, hentered⟩
  · have hrest : (r.state (i + 1)).AtRest := by
      rw [state_succ hop] at hcloses ⊢
      exact Dropdown.atRest_of_closes hcloses
    obtain ⟨n, rfl⟩ := Nat.exists_eq_add_of_le (Nat.succ_le_of_lt hij)
    rcases atRest_or_entersAt hrest n with ⟨hclosed, -⟩ | ⟨k, query, time, hik, hkj, hentered⟩
    · exact absurd (hopen.symm.trans hclosed) (by decide)
    · exact ⟨k, query, time, by omega, hkj, hentered⟩

/-! ## A run -/

-- focus on a short text does not disturb what waits, and what was asked is not asked again
example :
    let r : Run := {
      search := fun _ => {}
      ops := [.event (.input "ab") 0, .event (.focus "a") 10, .poll 149, .poll 150, .poll 400] }
    r.ops.zipIdx.map (fun (op, i) => ((r.state i).perform r.search op).asked) =
      [[], [], [], ["ab"], []] := by decide

end Run
end DocIndex
