/-
  NAVIGATION: what is highlighted is where Enter goes.

  A display shows the results that it was given last, with the row that it was told last to select.
  Enter goes by the panel, which the display never sees.  Between the two lies the whole run: which
  query was asked last, how the arrows and the pointer have moved, whether other results came in
  between, and a newer query may already wait.

  1. **What is highlighted** — `LastPresented` and `LastSelected` are said of the calls alone.  The
     invariant `Followed` ties them to the panel; the delicate outcome is again the answer to a query,
     which makes all earlier selections void.

  2. **Who leads away** (`chooses_or_stays`) — in a coherent dropdown an operation either chooses an
     entry, and then it does nothing but go there, or it leads nowhere.

  3. **Main statement** (`enter_goes_where_highlighted`) — over whole runs on an index.

  A view of the panel would not be enough here.  The question is about the past: which results, and
  which row of them, a call was about.  So the invariant carries the calls themselves, cut at the
  last presentation.
-/
import DocIndex.Proofs.Dropdown.Coherence
import DocIndex.Proofs.Dropdown.Rest
import DocIndex.Proofs.Search.FirstHits

namespace DocIndex

/-! ## What is highlighted

  The display is an outsider: it knows the calls and nothing else.  What it highlights is the last
  row it was told to select, of the last results it was given. -/

/-- `results` was presented last, and `since` is what the display was told afterwards. -/
structure LastPresented (told : List Display) (results : Buckets) (since : List Display) : Prop where
  presented : ∃ before, told = before ++ .present results :: since
  last : ∀ other, .present other ∉ since

/-- Of the calls `since` then, `row` is the row that was selected last. -/
structure LastSelected (since : List Display) (row : Nat) : Prop where
  selected : ∃ between after, since = between ++ .select row :: after ∧
    ∀ other, .select other ∉ after

/-- What was presented last stays so while nothing else is presented. -/
theorem LastPresented.append {told since : List Display} {results : Buckets}
    (h : LastPresented told results since) {calls : List Display}
    (mute : ∀ other, .present other ∉ calls) :
    LastPresented (told ++ calls) results (since ++ calls) := by
  obtain ⟨⟨before, rfl⟩, last⟩ := h
  refine ⟨⟨before, by simp⟩, fun other hother => ?_⟩
  exact (List.mem_append.mp hother).elim (last other) (mute other)

theorem LastSelected.append {since : List Display} {row : Nat} (h : LastSelected since row)
    {calls : List Display} (mute : ∀ other, .select other ∉ calls) :
    LastSelected (since ++ calls) row := by
  obtain ⟨between, after, rfl, last⟩ := h
  refine ⟨between, after ++ calls, by simp, fun other hother => ?_⟩
  exact (List.mem_append.mp hother).elim (last other) (mute other)

theorem lastSelected_snoc (since : List Display) (row : Nat) :
    LastSelected (since ++ [.select row]) row :=
  ⟨since, [], rfl, fun _ => List.not_mem_nil⟩

namespace Dropdown

variable {search : String → Buckets} {d : Dropdown} {told : List Display} {asked : List String}

/-- The rows of an open panel are what was presented last, for the query that was asked last, and
    its selected row is the row that was selected last since. -/
def Followed (search : String → Buckets) (told : List Display) (asked : List String)
    (d : Dropdown) : Prop :=
  d.panel.isOpen = true → ∃ query since, asked.getLast? = some query ∧
    LastPresented told (search query) since ∧ d.panel.results = (search query).flatten ∧
    ∀ row, d.panel.selected = some row → LastSelected since row

/-- Calls that neither present nor select leave everything as it was. -/
theorem Followed.append (h : d.Followed search told asked) {calls : List Display}
    (hpresent : ∀ other, .present other ∉ calls) (hselect : ∀ other, .select other ∉ calls) :
    d.Followed search (told ++ calls) (asked ++ []) := by
  intro hopen
  obtain ⟨query, since, hasked, hlast, hrows, hselected⟩ := h hopen
  rw [List.append_nil]
  exact ⟨query, since ++ calls, hasked, hlast.append hpresent, hrows,
    fun row hrow => (hselected row hrow).append hselect⟩

/-- **The step**: a panel that followed the calls follows them further. -/
theorem followed_perform (h : d.Followed search told asked) (op : Operation) :
    (d.perform search op).next.Followed search (told ++ (d.perform search op).calls)
      (asked ++ (d.perform search op).asked) := by
  have ho := outcome search d op
  generalize d.perform search op = reaction at ho
  cases ho with
  | wait entered long => exact h.append (by simp) (by simp)
  | close closes =>
    intro hopen
    cases hopen
  | cancel => exact h.append (by simp [Dropdown.cancel]) (by simp [Dropdown.cancel])
  -- a row is selected: the results are the same, and the row is the last
  | @select _ row rows bound =>
    intro hopen
    obtain ⟨query, since, hasked, hlast, hrows, -⟩ := h hopen
    refine ⟨query, since ++ [.select row], ?_, hlast.append (by simp [select]), hrows, ?_⟩
    · rw [show (d.select row).asked = [] from rfl, List.append_nil]
      exact hasked
    · intro i hi
      cases hi
      exact lastSelected_snoc since row
  | @ask now w waits due =>
    -- the new results come without a selection, so that no earlier one can count for them
    intro _
    refine ⟨w.query, [], List.getLast?_concat, ⟨⟨told, rfl⟩, fun _ => List.not_mem_nil⟩, rfl, ?_⟩
    intro row hrow
    cases hrow
  | nothing => exact h.append (by simp [unmoved]) (by simp [unmoved])

/-! ## Who leads away

  Only two operations can choose an entry, and only one of them looks at the state to do so. -/

/-- The entry that an operation chooses: the one that was clicked, or the selected one. -/
def choice? (d : Dropdown) : Operation → Option Entry
  | .event (.activate e) _ => some e
  | .event .enter _ => if d.panel.phase = .navigating then d.panel.selectedEntry? else none
  | _ => none

/-- Nothing but Enter and a click leads away. -/
theorem mute_of_ne {op : Operation} (henter : ∀ now, op ≠ .event .enter now)
    (hactivate : ∀ e now, op ≠ .event (.activate e) now) (target : Destination) :
    .navigate target ∉ (d.perform search op).calls := by
  have ho := outcome search d op
  generalize d.perform search op = reaction at ho
  cases ho with
  | wait entered long => simp
  | close closes =>
    cases closes with
    | enter selected isOpen => exact absurd rfl (henter _)
    | activate => exact absurd rfl (hactivate _ _)
    | shortInput short => simp
    | escape => simp
    | outside => simp
    | clear => simp
    | close => simp
  | cancel => simp [Dropdown.cancel]
  | select rows bound => simp [select]
  | ask waits due => simp
  | nothing => simp [unmoved]

/-- While a row is selected there is an entry in it.  This is where coherence is needed. -/
theorem selectedEntry?_of_navigating (h : Coherent d) (hphase : d.panel.phase = .navigating) :
    d.panel.isOpen = true ∧ ∃ row e, d.panel.selected = some row ∧ d.panel.results[row]? = some e ∧
      d.panel.selectedEntry? = some e := by
  rw [Panel.selectedEntry?]
  cases hs : d.panel.selected with
  | none =>
    rw [Panel.phase, hs] at hphase
    cases hopen : d.panel.isOpen <;> rw [hopen] at hphase <;> cases hphase
  | some row =>
    obtain ⟨hopen, hrow⟩ := h.inRange row hs
    exact ⟨hopen, row, d.panel.results[row], rfl, List.getElem?_eq_getElem hrow,
      List.getElem?_eq_getElem hrow⟩

/-- **The step**: an operation on a coherent dropdown goes to the entry that it chooses, or leads
    nowhere. -/
theorem chooses_or_stays (search : String → Buckets) (h : Coherent d) (op : Operation) :
    (∃ e, d.choice? op = some e ∧ d.perform search op = d.activate e) ∨
    (d.choice? op = none ∧ ∀ target, .navigate target ∉ (d.perform search op).calls) := by
  cases op with
  | event event now =>
    cases event with
    | activate e => exact .inl ⟨e, rfl, rfl⟩
    | enter =>
      by_cases hphase : d.panel.phase = .navigating
      · obtain ⟨hopen, row, e, -, -, he⟩ := selectedEntry?_of_navigating h hphase
        refine .inl ⟨e, ?_, ?_⟩
        · rw [choice?, if_pos hphase, he]
        · show d.enter = d.activate e
          rw [enter, he]
          exact if_pos hopen
      · -- no row is selected, so Enter means nothing
        have hacted : (d.perform search (.event .enter now)).acted = false :=
          Bool.eq_false_iff.mpr fun hacted => hphase ((enter_acted_iff h).mp hacted)
        refine .inr ⟨by rw [choice?, if_neg hphase], fun target => ?_⟩
        rw [eq_unmoved_of_not_acted search d rfl hacted]
        exact List.not_mem_nil
    | _ => exact .inr ⟨rfl, mute_of_ne (by simp) (by simp)⟩
  | _ => exact .inr ⟨rfl, mute_of_ne (by simp) (by simp)⟩

end Dropdown

/-- Where a call leads. -/
def Display.destination? : Display → Option Destination
  | .navigate target => some target
  | _ => none

theorem Display.destination?_eq_none {calls : List Display}
    (mute : ∀ target, .navigate target ∉ calls) : calls.filterMap destination? = [] := by
  refine List.filterMap_eq_nil_iff.mpr fun call hcall => ?_
  cases call with
  | navigate target => exact absurd hcall (mute target)
  | _ => rfl

/-! ## Whole runs

  The destinations of a run are read off its operations one by one, and compared with those in the
  calls. -/

namespace Run

/-- A run on an index. -/
def onIndex (index : List Entry) (delay : Option Nat) (ops : List Operation) : Run where
  search := DocIndex.search index
  delay := delay
  ops := ops

/-- The entry that is chosen at place `i`. -/
def choice? (r : Run) (i : Nat) : Option Entry := r.ops[i]?.bind (r.state i).choice?

variable {r : Run} {i : Nat}

/-- At every place of a run the panel has followed the calls. -/
theorem followed_state (r : Run) (i : Nat) :
    (r.state i).Followed r.search (r.told i) (r.asked i) := by
  refine history_induction (r := r)
    (P := fun d told asked => d.Followed r.search told asked) ?_
    (fun d told asked op h => Dropdown.followed_perform h op) i
  intro hopen
  rw [start] at hopen
  cases hdelay : r.delay <;> rw [hdelay] at hopen <;> cases hopen

/-- Closing leads back to the start. -/
theorem closed_eq_start (r : Run) (i : Nat) : (r.state i).closed = r.start := by
  have hdelay : (r.state i).quiet.delay = r.rest := r.state_delay i
  rw [Dropdown.closed, QuietPeriod.cancel, hdelay, start, rest]
  cases r.delay <;> rfl

/-- Choosing an entry goes there, empties the input and does nothing else. -/
theorem choice_goes {e : Entry} (h : r.choice? i = some e) :
    r.told (i + 1) = r.told i ++ [.navigate (.ofEntry e), .hide, .clearInput] ∧
    r.state (i + 1) = r.start := by
  obtain ⟨op, hop, hchoice⟩ := Option.bind_eq_some_iff.mp h
  have hperform : (r.state i).perform r.search op = (r.state i).activate e := by
    rcases Dropdown.chooses_or_stays r.search (Dropdown.coherent_state r i) op with
      ⟨other, hother, hperform⟩ | ⟨hnone, -⟩
    · rw [hchoice] at hother
      cases hother
      exact hperform
    · rw [hchoice] at hnone
      cases hnone
  constructor
  · rw [told, gathered_succ _ hop, hperform]
    rfl
  · rw [state_succ hop, hperform]
    exact r.closed_eq_start i

/-- The display is led to the entries that were chosen, in order. -/
theorem destinations_told (r : Run) (n : Nat) :
    (r.told n).filterMap Display.destination? =
      ((List.range n).filterMap r.choice?).map Destination.ofEntry := by
  induction n with
  | zero => rfl
  | succ n ih =>
    rw [List.range_succ, List.filterMap_append, List.map_append, ← ih]
    cases hchoice : r.choice? n with
    -- an entry is chosen, and the display is led there
    | some e =>
      rw [(choice_goes hchoice).1, List.filterMap_append]
      simp [hchoice, Display.destination?]
    | none =>
      cases hop : r.ops[n]? with
      -- the run is over
      | none =>
        rw [told, gathered_succ_of_none _ hop]
        simp [hchoice, told]
      | some op =>
        rcases Dropdown.chooses_or_stays r.search (Dropdown.coherent_state r n) op with
          ⟨e, he, -⟩ | ⟨-, hmute⟩
        · rw [choice?, hop, Option.bind_some, he] at hchoice
          cases hchoice
        · rw [told, gathered_succ _ hop, List.filterMap_append,
            Display.destination?_eq_none hmute]
          simp [hchoice, told]

/-- Only a click and an Enter while a row is selected choose an entry. -/
theorem chooser_of_choice {e : Entry} (h : r.choice? i = some e) :
    (∃ now, r.ops[i]? = some (.event (.activate e) now)) ∨
    (∃ now, r.ops[i]? = some (.event .enter now)) ∧ (r.state i).panel.phase = .navigating := by
  obtain ⟨op, hop, hchoice⟩ := Option.bind_eq_some_iff.mp h
  rw [hop]
  cases op with
  | event event now =>
    cases event with
    | activate other =>
      cases hchoice
      exact .inl ⟨now, rfl⟩
    | enter =>
      by_cases hphase : (r.state i).panel.phase = .navigating
      · exact .inr ⟨⟨now, rfl⟩, hphase⟩
      · rw [Dropdown.choice?, if_neg hphase] at hchoice
        cases hchoice
    | _ => cases hchoice
  | _ => cases hchoice

/-- **What is highlighted is where Enter goes.**  In every run on an index:
    * the display is led to the entries that are chosen, in this order, and nowhere else;
    * a click chooses its entry;
    * Enter, while a row is selected, chooses the row that was selected last of the results that were
      presented last; these are what was found for the query that was asked last, so the entry is in
      the index and mentions that query;
    * nothing else chooses, and choosing goes to the entry, hides the panel, empties the input, and
      leaves the dropdown as it was at the start, with nothing waiting. -/
theorem enter_goes_where_highlighted (index : List Entry) (delay : Option Nat)
    (ops : List Operation) :
    let r := Run.onIndex index delay ops
    (∀ n, (r.told n).filterMap Display.destination? =
      ((List.range n).filterMap r.choice?).map Destination.ofEntry) ∧
    (∀ i e now, r.ops[i]? = some (.event (.activate e) now) → r.choice? i = some e) ∧
    (∀ i now, r.ops[i]? = some (.event .enter now) → (r.state i).panel.phase = .navigating →
      ∃ query since row e, (r.asked i).getLast? = some query ∧
        LastPresented (r.told i) (DocIndex.search index query) since ∧ LastSelected since row ∧
        (DocIndex.search index query).flatten[row]? = some e ∧ r.choice? i = some e ∧
        e ∈ index ∧ e.Mentions query) ∧
    (∀ i e, r.choice? i = some e →
      ((∃ now, r.ops[i]? = some (.event (.activate e) now)) ∨
        (∃ now, r.ops[i]? = some (.event .enter now)) ∧ (r.state i).panel.phase = .navigating) ∧
      r.told (i + 1) = r.told i ++ [.navigate (.ofEntry e), .hide, .clearInput] ∧
      r.state (i + 1) = r.start ∧ (r.state (i + 1)).deadline? = none) := by
  intro r
  refine ⟨r.destinations_told, fun i e now hop => ?_, fun i now hop hphase => ?_,
    fun i e h => ⟨chooser_of_choice h, ?_⟩⟩
  · rw [choice?, hop]
    rfl
  · obtain ⟨hopen, row, e, hselected, hrow, he⟩ :=
      Dropdown.selectedEntry?_of_navigating (Dropdown.coherent_state r i) hphase
    obtain ⟨query, since, hasked, hlast, hrows, hsince⟩ := r.followed_state i hopen
    rw [hrows] at hrow
    refine ⟨query, since, row, e, hasked, hlast, hsince row hselected, hrow, ?_,
      mem_of_mem_search (List.mem_of_getElem? hrow)⟩
    rw [choice?, hop, Option.bind_some, Dropdown.choice?, if_pos hphase, he]
  · obtain ⟨htold, hstate⟩ := choice_goes h
    refine ⟨htold, hstate, ?_⟩
    rw [hstate, Dropdown.deadline?, QuietPeriod.deadline?, r.atRest_start.2]
    rfl

-- a newer text waits while Enter is pressed, and Enter still goes by the rows that are shown
example :
    let r := Run.onIndex [.ofType .classType "p" "Map", .ofType .enumType "p" "Mark"] none
      [.event (.input "ma") 0, .poll 150, .event .arrowDown 160, .event (.hover 1) 170,
        .event (.input "map") 180, .event .enter 190]
    (r.told 6).filterMap Display.destination? = [.type "p" "Mark" "p.Mark"] ∧
      r.state 6 = r.start := by decide

end Run
end DocIndex
