/-
  CHANGING THE DELAY in the middle of a run.

  The query that waits is kept twice: the panel shows it as awaited, and the quiet period holds it with
  its deadline.  Every operation of a run keeps the two together (`Coherent`).  `withDelay` is no
  operation: it puts a NEW quiet period into the dropdown and leaves the panel as it is.  On a fresh
  dropdown nothing is lost by that.  Later, a query that was waiting is STRANDED: still shown, and
  waiting for nothing.

  1. **Step** (`idle_perform`) — while no query waits, only a new text makes one wait; until then nothing
     is asked, and what is shown as awaited stays or disappears.

  2. **Whole runs** (`idle_performAll`) — by induction on what is done afterwards.

  3. **Main statement** (`delay_change_strands_iff`) — the two copies agree behind a change of the delay
     exactly if no query was waiting, and a query that was is never asked.
-/
import DocIndex.Proofs.Dropdown.Coherence
import DocIndex.Proofs.Dropdown.IdealClock
import DocIndex.Proofs.Dropdown.Rest

namespace DocIndex

/-- The panel awaits a query exactly if there is a deadline for one. -/
def Dropdown.InAgreement (d : Dropdown) : Prop :=
  d.panel.awaited.isSome = true ↔ d.deadline?.isSome = true

namespace Dropdown

variable (search : String → Buckets) {d : Dropdown} {op : Operation}

/-! ## While no query waits

  What follows a change of the delay is an ordinary run in which nothing waits at first. -/

/-- **The step**: where no query waits, an operation that enters no text asks nothing and lets nothing
    wait; what is shown as awaited stays or disappears. -/
theorem idle_perform (idle : d.quiet.waiting = none) (silent : op.Silent) :
    (d.perform search op).asked = [] ∧ (d.perform search op).next.quiet.waiting = none ∧
    ((d.perform search op).next.panel.awaited = d.panel.awaited ∨
      (d.perform search op).next.panel.awaited = none) := by
  have ho := outcome search d op
  generalize d.perform search op = reaction at ho
  cases ho with
  -- a text that waits was entered, and none was
  | @wait e text now entered long =>
    exact absurd ((isSearchable_iff text).mp long)
      (silent text now (Operation.enters_event entered now))
  | close closes => exact ⟨rfl, rfl, .inr rfl⟩
  | cancel => exact ⟨rfl, rfl, .inr rfl⟩
  | select rows bound => exact ⟨rfl, idle, .inl rfl⟩
  -- nothing waits that could be asked
  | ask waits due =>
    rw [idle] at waits
    cases waits
  | nothing => exact ⟨rfl, idle, .inl rfl⟩

/-- The same for all that is done, one thing after the other. -/
theorem idle_performAll {ops : List Operation} (silent : ∀ op ∈ ops, op.Silent) (c : Course)
    (idle : c.dropdown.quiet.waiting = none) :
    (c.performAll search ops).asked = c.asked ∧
    (c.performAll search ops).dropdown.quiet.waiting = none ∧
    ((c.performAll search ops).dropdown.panel.awaited = c.dropdown.panel.awaited ∨
      (c.performAll search ops).dropdown.panel.awaited = none) := by
  induction ops generalizing c with
  | nil => exact ⟨rfl, idle, .inl rfl⟩
  | cons op ops ih =>
    obtain ⟨hasked, hidle, hawaited⟩ :=
      idle_perform search idle (silent op List.mem_cons_self)
    obtain ⟨hasked', hidle', hawaited'⟩ :=
      ih (fun other hother => silent other (List.mem_cons_of_mem op hother))
        (c.perform search op) hidle
    rw [Course.performAll_cons]
    refine ⟨?_, hidle', ?_⟩
    · rw [hasked', Course.perform, hasked, List.append_nil]
    · -- once it has disappeared it does not come back
      rcases hawaited' with hsame | hnone
      · rw [hsame]
        exact hawaited
      · exact .inr hnone

/-! ## The two copies of the query that waits

  A coherent dropdown has both or neither.  The change takes one of them away. -/

/-- In a coherent dropdown they agree. -/
theorem Coherent.inAgreement (h : Coherent d) : d.InAgreement := by
  rw [InAgreement, deadline?, QuietPeriod.deadline?, Option.isSome_map, Option.isSome_iff_exists,
    Option.isSome_iff_exists]
  constructor
  · rintro ⟨query, hq⟩
    obtain ⟨deadline, hw⟩ := (h.awaits query).mp hq
    exact ⟨_, hw⟩
  · rintro ⟨⟨query, deadline⟩, hw⟩
    exact ⟨query, (h.awaits query).mpr ⟨deadline, hw⟩⟩

/-- Behind a change of the delay they agree only if the panel awaits nothing. -/
theorem inAgreement_withDelay_iff (d : Dropdown) (delay : Nat) :
    (d.withDelay delay).InAgreement ↔ d.panel.awaited = none := by
  show (d.panel.awaited.isSome = true ↔ (none : Option Nat).isSome = true) ↔ _
  cases d.panel.awaited <;> simp

end Dropdown

namespace Run

/-- **A change of the delay strands the query that waits.**  At every place of every run the panel
    awaits a query exactly if there is a deadline for it.  If the delay is changed there, this stays true
    exactly if no query was waiting.  One that was is shown as awaited and is asked by no poll: whatever
    is done afterwards, unless a text is entered, nothing is asked and there is no deadline, and the
    query is shown until the panel closes or the wait is cancelled. -/
theorem delay_change_strands_iff (r : Run) (i delay : Nat) :
    (r.state i).InAgreement ∧
    (((r.state i).withDelay delay).InAgreement ↔ (r.state i).deadline? = none) ∧
    ∀ ops : List Operation, (∀ op ∈ ops, op.Silent) →
      let after := Course.performAll r.search ⟨(r.state i).withDelay delay, [], []⟩ ops
      after.asked = [] ∧ after.dropdown.deadline? = none ∧
      (after.dropdown.panel.awaited = (r.state i).panel.awaited ∨
        after.dropdown.panel.awaited = none) := by
  have hagree : (r.state i).InAgreement := (Dropdown.coherent_state r i).inAgreement
  refine ⟨hagree, ?_, fun ops silent => ?_⟩
  · rw [Dropdown.inAgreement_withDelay_iff, ← Option.not_isSome_iff_eq_none,
      ← Option.not_isSome_iff_eq_none]
    exact not_congr hagree
  · obtain ⟨hasked, hidle, hawaited⟩ := Dropdown.idle_performAll r.search silent
      ⟨(r.state i).withDelay delay, [], []⟩ rfl
    refine ⟨hasked, ?_, hawaited⟩
    rw [Dropdown.deadline?, QuietPeriod.deadline?, hidle]
    rfl

/-- A text is typed, and nothing else is done. -/
def typing : Run where
  search := fun _ => {}
  ops := [.event (.input "us") 0]

/-- A change of the delay while `us` waits: it is shown as awaited, and it has no deadline. -/
theorem delay_change_strands_us :
    (typing.state 1).deadline? = some 150 ∧
    ((typing.state 1).withDelay 20).panel.awaited = some "us" ∧
    ((typing.state 1).withDelay 20).deadline? = none ∧
    ¬ ∀ (r : Run) (i delay : Nat), ((r.state i).withDelay delay).InAgreement := by
  refine ⟨by decide, by decide, by decide, fun hall => ?_⟩
  have hnone := (Dropdown.inAgreement_withDelay_iff _ _).mp (hall typing 1 20)
  revert hnone
  decide

end Run
end DocIndex
