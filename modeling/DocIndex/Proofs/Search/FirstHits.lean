/-
  SEARCH FINDS THE FIRST HITS.

  The scan has two limits: a bucket takes five entries, and the scan ends when thirty entries are
  collected.  The second limit is invisible in the results, because thirty entries can only be
  collected by filling all six buckets, and a full bucket takes no more.

  1. **Specification** — `hits index query c`: the entries of category `c` that mention the query,
     in the order of the index, with no limit.  `Entry.Mentions` is said with blocks of folded
     characters, not with the walk of the search.

  2. **The invariant** (`Holds`) — after a part of the index, every bucket is the first five hits of
     that part.  One entry keeps it (`holds_step`), and once every category has five hits it holds
     of every longer part as well (`holds_append`).

  3. **The crux** (`over_spec`) — one induction on what is still to be scanned.  It carries the part
     that was scanned, and that no part before it was saturated.

  4. **Main statement** (`search_eq_first_hits`) — buckets, agreement with the scan that never stops
     early, and the number of entries that were looked at.
-/
import Mathlib.Data.List.Induction
import DocIndex.Search.Scan
import DocIndex.Proofs.Text.Occurrence

namespace DocIndex

/-! ## Hits

  What a search is for, with no word about how it is carried out: no limits, no order of scanning,
  no buckets. -/

/-- The folded query occurs in the folded name, qualified name or signature. -/
def Entry.Mentions (e : Entry) (query : String) : Prop :=
  Text.fold query.toList <:+: Text.fold e.name.toList ∨
  Text.fold query.toList <:+: Text.fold e.qualifiedName.toList ∨
  ∃ signature, e.signature = some signature ∧
    Text.fold query.toList <:+: Text.fold signature.toList

/-- The test of the search decides whether the entry mentions the query. -/
theorem Entry.matches_iff (e : Entry) (query : String) :
    e.matches (Text.folded query) = true ↔ e.Mentions query := by
  rw [Entry.matches, Bool.or_eq_true, Bool.or_eq_true, or_assoc, Option.any_eq_true]
  simp only [Text.holds_folded_iff]
  exact Iff.rfl

instance (e : Entry) (query : String) : Decidable (e.Mentions query) :=
  decidable_of_iff _ (e.matches_iff query)

/-- The entries of a category that mention the query, in the order of the index. -/
def hits (index : List Entry) (query : String) (c : Category) : List Entry :=
  index.filter fun e => e.category = c ∧ e.Mentions query

/-- Every category has as many hits as a bucket takes. -/
def Saturated (index : List Entry) (query : String) : Prop :=
  ∀ c, 5 ≤ (hits index query c).length

theorem hits_append (part more : List Entry) (query : String) (c : Category) :
    hits (part ++ more) query c = hits part query c ++ hits more query c :=
  List.filter_append ..

/-- One more entry is one more hit of its category, or none. -/
theorem hits_snoc (part : List Entry) (e : Entry) (query : String) (c : Category) :
    hits (part ++ [e]) query c =
      if e.category = c ∧ e.Mentions query then hits part query c ++ [e] else hits part query c := by
  rw [hits_append]
  by_cases h : e.category = c ∧ e.Mentions query
  · have hone : hits [e] query c = [e] := List.filter_cons_of_pos (decide_eq_true h)
    rw [hone, if_pos h]
  · have hone : hits [e] query c = [] := List.filter_cons_of_neg (by simpa using h)
    rw [hone, if_neg h, List.append_nil]

/-! ## Buckets, seen by category

  There are six buckets in a record, one for each category.  Here they become one function from
  categories to lists, and the total becomes the sum of six lengths of at most five each. -/

namespace Buckets

/-- A bucket is changed alone.  The only lemma that looks at the six fields of the record one by
    one; all others go through `get`. -/
theorem get_set (b : Buckets) (c k : Category) (es : List Entry) :
    (b.set c es).get k = if c = k then es else b.get k := by
  rcases c with (_ | _ | _ | _) | _ | _ <;> rcases k with (_ | _ | _ | _) | _ | _ <;> rfl

/-- An entry goes to the end of the bucket of its category, if there is room. -/
theorem get_push (b : Buckets) (e : Entry) (c : Category) :
    (b.push e).get c =
      if e.category = c ∧ (b.get c).length < 5 then b.get c ++ [e] else b.get c := by
  by_cases hroom : (b.get e.category).length < 5
  · -- there is room in the bucket of the entry
    have hpush : b.push e = b.set e.category (b.get e.category ++ [e]) := if_pos hroom
    rw [hpush, get_set]
    by_cases hc : e.category = c
    · subst hc
      rw [if_pos rfl, if_pos ⟨rfl, hroom⟩]
    · rw [if_neg hc, if_neg (fun h => hc h.1)]
  · -- the bucket is full, and the entry is left out
    have hpush : b.push e = b := if_neg hroom
    rw [hpush, if_neg]
    rintro ⟨rfl, h⟩
    exact hroom h

/-- Buckets are what they hold. -/
theorem ext_get {b b' : Buckets} (h : ∀ c, b.get c = b'.get c) : b = b' := by
  cases b
  cases b'
  rw [Buckets.mk.injEq]
  exact ⟨h (.type .classType), h (.type .interfaceType), h (.type .enumType),
    h (.type .annotationType), h .method, h .field⟩

/-- Thirty entries are there exactly if all six buckets are full. -/
theorem totalLimit_le_total_iff {b : Buckets} (h : ∀ c, (b.get c).length ≤ 5) :
    totalLimit ≤ b.total ↔ ∀ c, 5 ≤ (b.get c).length := by
  have h₁ := h (.type .classType)
  have h₂ := h (.type .interfaceType)
  have h₃ := h (.type .enumType)
  have h₄ := h (.type .annotationType)
  have h₅ := h .method
  have h₆ := h .field
  have htotal : b.total = (b.get (.type .classType)).length + ((b.get (.type .interfaceType)).length +
      ((b.get (.type .enumType)).length + ((b.get (.type .annotationType)).length +
        ((b.get .method).length + ((b.get .field).length + 0))))) := rfl
  rw [htotal, totalLimit]
  constructor
  · -- thirty in six buckets of at most five each: none has fewer
    intro hle c
    rcases c with (_ | _ | _ | _) | _ | _ <;> omega
  · intro hfull
    have g₁ := hfull (.type .classType)
    have g₂ := hfull (.type .interfaceType)
    have g₃ := hfull (.type .enumType)
    have g₄ := hfull (.type .annotationType)
    have g₅ := hfull .method
    have g₆ := hfull .field
    omega

end Buckets

/-! ## The invariant of the scan

  One entry after the other.  The buckets may be full and the scan go on, since another category may
  still want entries; a full bucket is the first five hits nevertheless. -/

namespace Scan

/-- Every bucket is the first five hits of this part of the index. -/
def Holds (b : Buckets) (part : List Entry) (query : String) : Prop :=
  ∀ c, b.get c = (hits part query c).take 5

/-- The buckets with an entry collected, if it mentions the query. -/
def collect (query : String) (b : Buckets) (e : Entry) : Buckets :=
  if e.Mentions query then b.push e else b

/-- All that a scan collects that never stops before the end. -/
def full (index : List Entry) (query : String) : Buckets := index.foldl (collect query) {}

/-- The first five of a list that grows at its end: the new one counts while there is room. -/
theorem take_five_snoc (es : List Entry) (e : Entry) :
    (es ++ [e]).take 5 = if (es.take 5).length < 5 then es.take 5 ++ [e] else es.take 5 := by
  rw [List.length_take]
  by_cases h : es.length < 5
  · rw [if_pos (by omega), List.take_of_length_le (by omega : es.length ≤ 5),
      List.take_of_length_le (by simp; omega)]
  · rw [if_neg (by omega), List.take_append_of_le_length (by omega)]

/-- **The step**: one more entry. -/
theorem holds_step {b : Buckets} {part : List Entry} {query : String} (h : Holds b part query)
    (e : Entry) : Holds (collect query b e) (part ++ [e]) query := by
  intro c
  by_cases hhit : e.category = c ∧ e.Mentions query
  · -- a hit of this category
    rw [hits_snoc, if_pos hhit, take_five_snoc, collect, if_pos hhit.2, Buckets.get_push, h c]
    simp only [hhit.1, true_and]
  · rw [hits_snoc, if_neg hhit, ← h c, collect]
    split
    · -- a hit of another category does not touch this bucket
      rename_i hm
      rw [Buckets.get_push, if_neg (fun hc => hhit ⟨hc.1, hm⟩)]
    · rfl

theorem holds_nil (query : String) : Holds {} [] query := by
  rintro ((_ | _ | _ | _) | _ | _) <;> rfl

/-- Once every category has five hits, further entries change nothing. -/
theorem holds_append {b : Buckets} {part : List Entry} {query : String} (h : Holds b part query)
    (hs : Saturated part query) (more : List Entry) : Holds b (part ++ more) query := by
  intro c
  rw [hits_append, List.take_append_of_le_length (hs c)]
  exact h c

/-- The limit on the whole is reached exactly when every category has five hits. -/
theorem totalLimit_le_iff_saturated {b : Buckets} {part : List Entry} {query : String}
    (h : Holds b part query) : totalLimit ≤ b.total ↔ Saturated part query := by
  have hlen : ∀ c, (b.get c).length = min 5 (hits part query c).length := by
    intro c
    rw [h c, List.length_take]
  rw [Buckets.totalLimit_le_total_iff (fun c => by rw [hlen c]; omega)]
  constructor
  · intro hfull c
    have := hfull c
    rw [hlen c] at this
    omega
  · intro hs c
    have := hs c
    rw [hlen c]
    omega

/-! ## The scan

  The scan ends early, and the specification knows of no end.  That is made up for by what
  saturation means: nothing that follows could change a bucket. -/

/-- The full scan keeps the first five hits of every category: `holds_step`, entry by entry. -/
theorem holds_full (index : List Entry) (query : String) :
    Holds (full index query) index query := by
  induction index using List.reverseRecOn with
  | nil => exact holds_nil query
  | append_singleton part e ih =>
    have hsnoc : full (part ++ [e]) query = collect query (full part query) e := List.foldl_append
    rw [hsnoc]
    exact holds_step ih e

/-- A scan has to look at `n` entries: up to the first part of the index that is saturated,
    and all of them if there is none. -/
def LooksAt (index : List Entry) (query : String) (n : Nat) : Prop :=
  (Saturated (index.take n) query ∧ ∀ k, k < n → ¬ Saturated (index.take k) query) ∨
  ((∀ k, ¬ Saturated (index.take k) query) ∧ n = index.length)

/-- **The crux**: a scan that has come to the end of `part`, with nothing saturated so far, ends
    with the first hits of the whole index and has looked at no more than it has to. -/
theorem over_spec (query : String) : ∀ (rest part : List Entry) (b : Buckets),
    Holds b part query → (∀ k, k ≤ part.length → ¬ Saturated (part.take k) query) →
    Holds (Scan.over ⟨b, part.length⟩ (Text.folded query) rest).buckets (part ++ rest) query ∧
    LooksAt (part ++ rest) query
      (Scan.over ⟨b, part.length⟩ (Text.folded query) rest).scanned := by
  intro rest
  induction rest with
  -- the end of the index: all of it was looked at, and nothing was saturated
  | nil =>
    intro part b h hbefore
    rw [List.append_nil]
    refine ⟨h, .inr ⟨fun k => ?_, rfl⟩⟩
    rcases Nat.le_total k part.length with hk | hk
    · exact hbefore k hk
    · rw [List.take_of_length_le hk, ← List.take_length (l := part)]
      exact hbefore part.length (Nat.le_refl _)
  | cons e rest ih =>
    intro part b h hbefore
    have hstep : Holds (collect query b e) (part ++ [e]) query := holds_step h e
    have hcollect : (if e.matches (Text.folded query) then b.push e else b) = collect query b e := by
      rw [collect]
      simp only [Entry.matches_iff]
    have hlen : (part ++ [e]).length = part.length + 1 := List.length_append
    have hearlier : ∀ k more, k ≤ part.length → (part ++ [e] ++ more).take k = part.take k := by
      intro k more hk
      rw [List.append_assoc, List.take_append_of_le_length hk]
    rw [Scan.over, hcollect, List.append_cons, ← hlen]
    by_cases hfull : totalLimit ≤ (collect query b e).total
    · -- every category has its five hits: the scan stops, and nothing that follows counts
      have hs : Saturated (part ++ [e]) query := (totalLimit_le_iff_saturated hstep).mp hfull
      rw [if_pos hfull]
      refine ⟨holds_append hstep hs rest, .inl ⟨?_, fun k (hk : k < (part ++ [e]).length) => ?_⟩⟩
      · rw [List.take_left]
        exact hs
      · rw [hearlier k rest (by omega)]
        exact hbefore k (by omega)
    · -- the scan goes on, and the longer part is not saturated either
      rw [if_neg hfull]
      refine ih (part ++ [e]) (collect query b e) hstep fun k hk => ?_
      rcases Nat.lt_or_ge part.length k with hlt | hge
      · rw [List.take_of_length_le (by omega)]
        exact fun hs => hfull ((totalLimit_le_iff_saturated hstep).mpr hs)
      · rw [← List.append_nil (part ++ [e]), hearlier k [] hge]
        exact hbefore k hge

/-- With nothing scanned, nothing is saturated. -/
theorem not_saturated_nil (query : String) : ¬ Saturated [] query :=
  fun hs => absurd (hs .method) (Nat.not_succ_le_zero 4)

/-- **A run**: the scan of a long query starts with empty buckets, and `over_spec` says how it ends.
    Its buckets are the results of the search. -/
theorem run?_of_long (index : List Entry) {query : String} (long : 2 ≤ query.length) :
    ∃ scan, run? index query = some scan ∧ scan.buckets = search index query ∧
      Holds scan.buckets index query ∧ LooksAt index query scan.scanned := by
  have hrun : run? index query = some (Scan.over ⟨{}, 0⟩ (Text.folded query) index) :=
    if_pos (decide_eq_true long)
  have hempty : ∀ k, k ≤ ([] : List Entry).length →
      ¬ Saturated (([] : List Entry).take k) query := by
    intro k _
    rw [List.take_nil]
    exact not_saturated_nil query
  obtain ⟨hholds, hlooks⟩ := over_spec query index [] {} (holds_nil query) hempty
  refine ⟨_, hrun, ?_, hholds, hlooks⟩
  rw [search, hrun, Option.map_some, Option.getD_some]

/-- A short query is not scanned for, and its results are empty. -/
theorem search_of_short (index : List Entry) {query : String} (short : query.length < 2) :
    search index query = {} := by
  have hrun : run? index query = none := by
    refine if_neg fun h => ?_
    have long : 2 ≤ query.length := of_decide_eq_true h
    omega
  rw [search, hrun, Option.map_none, Option.getD_none]

/-- The search of a long query ends with the first hits of the index. -/
theorem holds_search (index : List Entry) {query : String} (long : 2 ≤ query.length) :
    Holds (search index query) index query := by
  obtain ⟨scan, -, hbuckets, hholds, -⟩ := run?_of_long index long
  rw [← hbuckets]
  exact hholds

end Scan

/-- What a search finds is in the index and mentions the query. -/
theorem mem_of_mem_search {index : List Entry} {query : String} {e : Entry}
    (h : e ∈ (search index query).flatten) : e ∈ index ∧ e.Mentions query := by
  obtain ⟨c, -, hc⟩ := List.mem_flatMap.mp h
  by_cases long : 2 ≤ query.length
  · rw [Scan.holds_search index long c] at hc
    have hhit := List.mem_filter.mp (List.mem_of_mem_take hc)
    exact ⟨hhit.1, (of_decide_eq_true hhit.2).2⟩
  · -- a short query finds nothing
    rw [Scan.search_of_short index (Nat.lt_of_not_le long), Scan.holds_nil query c] at hc
    simp [hits] at hc

/-- **Search finds the first hits.**  For a query of two characters or more, every bucket is the
    first five entries of its category that mention the query; the results are those of the scan
    that never stops early; and the scan looks at no more entries than it needs to saturate all
    categories.  A shorter query finds nothing. -/
theorem search_eq_first_hits (index : List Entry) (query : String) :
    (2 ≤ query.length →
      (∀ c, (search index query).get c = (hits index query c).take 5) ∧
      search index query = Scan.full index query ∧
      ∃ scan, Scan.run? index query = some scan ∧ scan.buckets = search index query ∧
        Scan.LooksAt index query scan.scanned) ∧
    (query.length < 2 → ∀ c, (search index query).get c = []) := by
  constructor
  · intro long
    have hholds := Scan.holds_search index long
    obtain ⟨scan, hrun, hbuckets, -, hlooks⟩ := Scan.run?_of_long index long
    refine ⟨hholds, Buckets.ext_get fun c => ?_, scan, hrun, hbuckets, hlooks⟩
    -- both scans hold the first hits, and buckets are what they hold
    rw [hholds c, Scan.holds_full index query c]
  · intro short c
    rw [Scan.search_of_short index short, Scan.holds_nil query c]
    rfl

end DocIndex
