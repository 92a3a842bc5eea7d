/-
  THE CLEAR CONTROL beside the input.

  The control that empties the input should be visible exactly while there is something to empty.
  Neither the text nor the control is kept in the dropdown: the text is what was typed last, and both
  follow the calls.

  1. **The input line** (`InputLine`) — text and control, after an operation and the calls it makes.
     `Rewritten` lists what one operation can do to them.

  2. **What goes wrong** — the clear control empties the input and hides itself.  Choosing a row
     empties the input too, and does not speak of the control.  `Run.Stale` says of the history that
     the input was emptied in this way, with nothing typed or cleared since.

  3. **Main statement** (`control_truthful_unless_stale`) — a text is never without its control, and
     the control tells the truth about the input exactly while it is not stale.
     `control_outlives_text` is a run in which it becomes so.
-/
import DocIndex.Proofs.Dropdown.Run

namespace DocIndex

/-- The input and its clear control. -/
structure InputLine where
  text : String := ""
  /-- is the control visible? -/
  control : Bool := false
  deriving Repr, DecidableEq

namespace InputLine

/-- The line after a call. -/
def follow (l : InputLine) : Display → InputLine
  | .clearInput => { l with text := "" }
  | .showClear visible => { l with control := visible }
  | .navigate _ | .present _ | .hide | .select _ | .focusInput | .releaseFocus => l

/-- The line when an operation begins: what is typed stands in it before the dropdown reacts. -/
def typed (l : InputLine) : Operation → InputLine
  | .event (.input text) _ => { l with text := text }
  | _ => l

/-- The line after an operation on a dropdown. -/
def after (search : String → Buckets) (d : Dropdown) (l : InputLine) (op : Operation) : InputLine :=
  (d.perform search op).calls.foldl follow (l.typed op)

end InputLine

/-- The operation decides the text and the control: it types, or it uses the control. -/
def Operation.Rewrites : Operation → Prop
  | .event (.input _) _ | .event .clear _ => True
  | _ => False

namespace Dropdown

/-- The operation leads to a destination. -/
def Leaves (search : String → Buckets) (d : Dropdown) (op : Operation) : Prop :=
  ∃ target, .navigate target ∈ (d.perform search op).calls

/-! ## One operation

  The dropdown has no input line.  It is told what was typed and tells the display what to do with
  the line, and so the line has to be followed through the calls of each operation. -/

/-- What an operation can do to the line. -/
inductive Rewritten (search : String → Buckets) (d : Dropdown) (l : InputLine) :
    Operation → InputLine → Prop where
  | typed {text : String} {now : Nat} :
      Rewritten search d l (.event (.input text) now) ⟨text, !text.isEmpty⟩
  | cleared {now : Nat} : Rewritten search d l (.event .clear now) ⟨"", false⟩
  /-- the input is emptied, and the control stays as it is -/
  | left {op : Operation} (leaves : d.Leaves search op) (keeps : ¬ op.Rewrites) :
      Rewritten search d l op ⟨"", l.control⟩
  | refocused {text : String} {now : Nat} (stays : ¬ d.Leaves search (.event (.focus text) now))
      (long : isSearchable text = true) :
      Rewritten search d l (.event (.focus text) now) ⟨l.text, !text.isEmpty⟩
  | untouched {op : Operation} (stays : ¬ d.Leaves search op) (keeps : ¬ op.Rewrites) :
      Rewritten search d l op l

variable {search : String → Buckets} {d : Dropdown} {l : InputLine}

/-- Neither typing nor clearing leads anywhere. -/
theorem not_leaves_of_rewrites {op : Operation} (h : op.Rewrites) : ¬ d.Leaves search op := by
  rintro ⟨target, ht⟩
  cases op with
  | event e now =>
    cases e with
    | input text =>
      rw [show d.perform search (.event (.input text) now) = d.input text now from rfl,
        Dropdown.input] at ht
      split at ht <;> simp at ht
    | clear => simp [perform, handle, clear] at ht
    | _ => exact h
  | _ => exact h

/-- Only typing changes the text before the dropdown reacts. -/
theorem typed_of_keeps {op : Operation} (h : ¬ op.Rewrites) : l.typed op = l := by
  cases op with
  | event e now =>
    cases e with
    | input text => exact absurd trivial h
    | _ => rfl
  | _ => rfl

/-- An operation that rewrites the line writes the text and the control that belongs to it. -/
theorem rewritten_of_rewrites {op : Operation} (h : op.Rewrites) :
    Rewritten search d l op (l.after search d op) := by
  cases op with
  | event e now =>
    cases e with
    | input text =>
      have hafter : l.after search d (.event (.input text) now) = ⟨text, !text.isEmpty⟩ := by
        show (d.input text now).calls.foldl InputLine.follow _ = _
        rw [Dropdown.input]
        split <;> rfl
      rw [hafter]
      exact .typed
    | clear => exact .cleared
    | _ => exact h.elim
  | _ => exact h.elim

/-- **The step**: every operation does one of the five things to the line. -/
theorem rewritten_after (search : String → Buckets) (d : Dropdown) (l : InputLine)
    (op : Operation) : Rewritten search d l op (l.after search d op) := by
  by_cases h : op.Rewrites
  · exact rewritten_of_rewrites h
  · rw [InputLine.after, typed_of_keeps h]
    have ho := outcome search d op
    generalize hr : d.perform search op = reaction at ho
    -- a reaction without a call to navigate leads nowhere
    have hstays : (∀ target, .navigate target ∉ reaction.calls) → ¬ d.Leaves search op := by
      rintro hmute ⟨target, ht⟩
      rw [hr] at ht
      exact hmute target ht
    cases ho with
    | wait entered long =>
      rcases entered with rfl | rfl
      · exact absurd trivial h
      · exact .refocused (hstays (by simp)) long
    | close closes =>
      cases closes with
      | shortInput short => exact absurd trivial h
      | enter selected isOpen => exact .left ⟨_, by rw [hr]; exact List.mem_cons_self⟩ h
      | activate => exact .left ⟨_, List.mem_cons_self⟩ h
      | escape => exact .untouched (hstays (by simp)) h
      | outside => exact .untouched (hstays (by simp)) h
      | clear => exact absurd trivial h
      | close => exact .untouched (hstays (by simp)) h
    | cancel => exact .untouched (hstays (by simp [Dropdown.cancel])) h
    | select rows bound => exact .untouched (hstays (by simp [select])) h
    | ask waits due => exact .untouched (hstays (by simp)) h
    | nothing => exact .untouched (hstays (by simp [unmoved])) h

end Dropdown

/-! ## Whole runs

  The history decides whether the control can be trusted, and the invariant says what line and
  control are in either case.  Where focus comes with another text than the one in the input nothing
  could be said, so runs have to be `Honest`. -/

namespace Run

/-- The line before the operation at place `i`. -/
def line (r : Run) : Nat → InputLine
  | 0 => {}
  | i + 1 =>
    match r.ops[i]? with
    | some op => (r.line i).after r.search (r.state i) op
    | none => r.line i

/-- Focus always comes with the text that is in the input. -/
def Honest (r : Run) : Prop :=
  ∀ i text now, r.ops[i]? = some (.event (.focus text) now) → (r.line i).text = text

/-- The operation at place `k` empties an input that holds a text, by leading to a destination. -/
def EmptiesAt (r : Run) (k : Nat) : Prop :=
  ∃ op, r.ops[k]? = some op ∧ (r.state k).Leaves r.search op ∧ (r.line k).text ≠ ""

/-- The operation at place `j` types or clears. -/
def RewritesAt (r : Run) (j : Nat) : Prop := ∃ op, r.ops[j]? = some op ∧ op.Rewrites

/-- Before place `i` the input was emptied by leading to a destination, and nothing was typed or
    cleared since. -/
def Stale (r : Run) (i : Nat) : Prop :=
  ∃ k, k < i ∧ r.EmptiesAt k ∧ ∀ j, k < j → j < i → ¬ r.RewritesAt j

variable {r : Run} {i : Nat} {op : Operation}

/-- Histories grow at their end: the control is stale one place further on if the input was just
    emptied, or if it was stale and the last operation did not rewrite the line. -/
theorem stale_succ_iff (r : Run) (i : Nat) :
    r.Stale (i + 1) ↔ r.EmptiesAt i ∨ (r.Stale i ∧ ¬ r.RewritesAt i) := by
  constructor
  · -- was it the last operation that emptied the input, or one before it?
    rintro ⟨k, hk, hempties, hsince⟩
    rcases Nat.lt_or_eq_of_le (Nat.le_of_lt_succ hk) with hlt | rfl
    · exact .inr ⟨⟨k, hlt, hempties, fun j hkj hji => hsince j hkj (by omega)⟩,
        hsince i hlt (Nat.lt_succ_self i)⟩
    · exact .inl hempties
  · rintro (hempties | ⟨⟨k, hk, hempties, hsince⟩, hkeeps⟩)
    · exact ⟨i, Nat.lt_succ_self i, hempties, fun j hij hji => by omega⟩
    · refine ⟨k, by omega, hempties, fun j hkj hji => ?_⟩
      rcases Nat.lt_or_eq_of_le (Nat.le_of_lt_succ hji) with hlt | rfl
      · exact hsince j hkj hlt
      · exact hkeeps

theorem emptiesAt_iff (h : r.ops[i]? = some op) :
    r.EmptiesAt i ↔ (r.state i).Leaves r.search op ∧ (r.line i).text ≠ "" := by
  rw [EmptiesAt, h]
  simp

theorem rewritesAt_iff (h : r.ops[i]? = some op) : r.RewritesAt i ↔ op.Rewrites := by
  rw [RewritesAt, h]
  simp

/-- The control is visible beside a text, and beside an input that was emptied behind its back. -/
structure Explained (r : Run) (i : Nat) : Prop where
  visible : (r.line i).control = true ↔ (r.line i).text ≠ "" ∨ r.Stale i
  emptied : r.Stale i → (r.line i).text = ""

/-- Where nothing is stale, the control has to tell the truth. -/
theorem explained_of_fresh (hfresh : ¬ r.Stale i)
    (h : (r.line i).control = true ↔ (r.line i).text ≠ "") : r.Explained i where
  visible := h.trans ⟨.inl, fun hor => hor.resolve_right hfresh⟩
  emptied := fun hstale => absurd hstale hfresh

theorem not_isEmpty_iff (text : String) : (!text.isEmpty) = true ↔ text ≠ "" := by
  rw [Bool.not_eq_true', ← Bool.not_eq_true, String.isEmpty_iff]

theorem ne_empty_of_isSearchable {text : String} (h : isSearchable text = true) : text ≠ "" := by
  rintro rfl
  cases h

/-- **The step**: a line that its history explains stays so, if focus comes with the text that is in
    it. -/
theorem explained_succ (honest : r.Honest) (h : r.ops[i]? = some op) (ih : r.Explained i) :
    r.Explained (i + 1) := by
  have hline : r.line (i + 1) = (r.line i).after r.search (r.state i) op := by rw [line, h]
  have hstale : r.Stale (i + 1) ↔ ((r.state i).Leaves r.search op ∧ (r.line i).text ≠ "") ∨
      (r.Stale i ∧ ¬ op.Rewrites) := by
    rw [stale_succ_iff, emptiesAt_iff h, rewritesAt_iff h]
  -- what rewrites the line leads nowhere, and leaves no memory of what was there
  have hfresh : op.Rewrites → ¬ r.Stale (i + 1) := by
    intro hrewrites
    rw [hstale]
    rintro (⟨hleaves, -⟩ | ⟨-, hkeeps⟩)
    · exact Dropdown.not_leaves_of_rewrites hrewrites hleaves
    · exact hkeeps hrewrites
  have hstep := Dropdown.rewritten_after r.search (r.state i) (r.line i) op
  rw [← hline] at hstep
  generalize hnext : r.line (i + 1) = next at hstep
  cases hstep with
  -- typing writes the text and the control that belongs to it
  | @typed text now =>
    refine explained_of_fresh (hfresh trivial) ?_
    rw [hnext]
    exact not_isEmpty_iff text
  | cleared =>
    refine explained_of_fresh (hfresh trivial) ?_
    rw [hnext]
    simp
  | left leaves keeps =>
    -- the control is as it was, and the text that stood beside it is gone
    refine ⟨?_, fun _ => by rw [hnext]⟩
    rw [hnext, hstale]
    simp only [leaves, keeps, true_and, not_false_iff, and_true, ne_eq, not_true, false_or]
    exact ih.visible
  -- the text is the one in the input, and it is not empty, so nothing was stale
  | @refocused text now stays long =>
    have htext : (r.line i).text = text := honest i text now h
    have hne : (r.line i).text ≠ "" := htext ▸ ne_empty_of_isSearchable long
    refine explained_of_fresh ?_ ?_
    · rw [hstale]
      rintro (⟨hleaves, -⟩ | ⟨hwas, -⟩)
      · exact stays hleaves
      · exact hne (ih.emptied hwas)
    · rw [hnext, ← htext]
      exact not_isEmpty_iff _
  -- neither line nor history has changed
  | untouched stays keeps =>
    have hsame : r.Stale (i + 1) ↔ r.Stale i := by
      rw [hstale]
      simp only [stays, keeps, false_and, false_or, not_false_iff, and_true]
    constructor
    · rw [hnext, hsame]
      exact ih.visible
    · rw [hnext, hsame]
      exact ih.emptied

/-- The line is explained by its history all the time. -/
theorem explained (honest : r.Honest) (i : Nat) : r.Explained i := by
  induction i with
  | zero =>
    refine explained_of_fresh ?_ ?_
    · rintro ⟨k, hk, -⟩
      exact absurd hk (Nat.not_lt_zero k)
    · simp [line]
  | succ i ih =>
    cases h : r.ops[i]? with
    | some op => exact explained_succ honest h ih
    -- the run is over, and nothing changes any more
    | none =>
      have hline : r.line (i + 1) = r.line i := by rw [line, h]
      have hsame : r.Stale (i + 1) ↔ r.Stale i := by
        rw [stale_succ_iff, EmptiesAt, RewritesAt, h]
        simp
      exact ⟨by rw [hline, hsame]; exact ih.visible, by rw [hline, hsame]; exact ih.emptied⟩

/-- **The control tells the truth about the input until a row is chosen.**  In every run in which
    focus comes with the text of the input, a text is never without its control; and at every place
    the control is visible exactly if there is a text, unless choosing a row has emptied the input and
    nothing was typed or cleared since: then the control is still visible, beside an empty input. -/
theorem control_truthful_unless_stale (r : Run) (honest : r.Honest) (i : Nat) :
    ((r.line i).text ≠ "" → (r.line i).control = true) ∧
    (((r.line i).control = true ↔ (r.line i).text ≠ "") ↔ ¬ r.Stale i) ∧
    (r.Stale i → (r.line i).control = true ∧ (r.line i).text = "") := by
  obtain ⟨hvisible, hemptied⟩ := explained honest i
  refine ⟨fun h => hvisible.mpr (.inl h), ⟨fun htruth hstale => ?_, fun hfresh => ?_⟩,
    fun hstale => ⟨hvisible.mpr (.inr hstale), hemptied hstale⟩⟩
  · exact htruth.mp (hvisible.mpr (.inr hstale)) (hemptied hstale)
  · exact hvisible.trans ⟨fun hor => hor.resolve_right hfresh, .inl⟩

/-! ## A row is chosen

  The shortest way to a control that outlives its text. -/

/-- A class is looked for, selected and chosen; the input has the focus twice. -/
def choosing : Run where
  search := DocIndex.search [.ofType .classType "com.acme" "User"]
  ops := [.event (.input "us") 0, .event (.focus "us") 20, .poll 170, .event .arrowDown 200,
    .event .enter 210, .event (.focus "") 220]

/-- Focus comes with `us` while that is in the input, and with nothing when it was emptied. -/
theorem honest_choosing : choosing.Honest := by
  intro i text now h
  rcases i with _ | _ | _ | _ | _ | _ | i <;> simp [choosing] at h
  · obtain ⟨rfl, rfl⟩ := h
    decide
  · obtain ⟨rfl, rfl⟩ := h
    decide

/-- Before Enter the control stands beside its text, and behind it the control is stale. -/
theorem choosing_makes_stale :
    choosing.Honest ∧ (choosing.line 4).text = "us" ∧ (choosing.line 4).control = true ∧
    choosing.Stale 6 ∧ (choosing.line 6).control = true ∧ (choosing.line 6).text = "" := by
  have hstale : choosing.Stale 6 := by
    refine ⟨4, by decide, ⟨.event .enter 210, rfl, ⟨_, List.mem_of_mem_head? rfl⟩, by decide⟩, ?_⟩
    intro j hj hj'
    obtain rfl : j = 5 := by omega
    rintro ⟨op, hop, hrewrites⟩
    cases hop
    exact hrewrites
  have htext : (choosing.line 4).text = "us" := by decide
  have hne : (choosing.line 4).text ≠ "" := by
    rw [htext]
    decide
  exact ⟨honest_choosing, htext, (control_truthful_unless_stale choosing honest_choosing 4).1 hne,
    hstale, (control_truthful_unless_stale choosing honest_choosing 6).2.2 hstale⟩

/-- The control does not always tell the truth: behind Enter it is visible beside an empty input. -/
theorem control_outlives_text :
    choosing.Honest ∧ (choosing.line 5).control = true ∧ (choosing.line 5).text = "" ∧
    ¬ ∀ r : Run, r.Honest → ∀ i, (r.line i).control = true ↔ (r.line i).text ≠ "" := by
  have hcontrol : (choosing.line 5).control = true := by decide
  have htext : (choosing.line 5).text = "" := by decide
  exact ⟨honest_choosing, hcontrol, htext,
    fun hall => (hall choosing honest_choosing 5).mp hcontrol htext⟩

end Run
end DocIndex
