/-
  NARROWING: a longer query finds no more.

  Whoever goes on typing expects the list to shrink.  An entry that matches the longer query matches
  every block of it, so the hits of the longer query are those hits of the shorter one that still match.
  The buckets hold only the first five hits, and for them this is true as long as there was ROOM: a
  bucket with fewer than five entries holds all the hits.  A full bucket may have left hits out, and the
  longer query may bring them to light.

  1. **Texts** (`Text.fold_infix`) — folding keeps blocks, because it goes character by character.

  2. **Hits** (`hits_of_infix`) — the same for the hits of a category, with no limit.

  3. **Main statement** (`search_narrows`) — from hits to buckets, by `Scan.holds_search`.
-/
import DocIndex.Proofs.Search.FirstHits
import DocIndex.Proofs.Text.Folding

namespace DocIndex

/-! ## Matching a block of the query

  A longer query need not go on where the shorter one ended; it may have been typed at its front as
  well. -/

/-- A block of a text is folded to a block of the folded text. -/
theorem Text.fold_infix {cs ds : List Char} (h : cs <:+: ds) : fold cs <:+: fold ds := by
  obtain ⟨front, back, rfl⟩ := h
  rw [fold_append, fold_append]
  exact ⟨fold front, fold back, rfl⟩

/-- An entry mentions every block of a query that it mentions. -/
theorem Entry.Mentions.of_infix {e : Entry} {query longer : String}
    (h : query.toList <:+: longer.toList) (hm : e.Mentions longer) : e.Mentions query := by
  have hfold : Text.fold query.toList <:+: Text.fold longer.toList := Text.fold_infix h
  rcases hm with hname | hqualified | ⟨signature, hs, hsignature⟩
  · exact .inl (hfold.trans hname)
  · exact .inr (.inl (hfold.trans hqualified))
  · exact .inr (.inr ⟨signature, hs, hfold.trans hsignature⟩)

/-- The hits of a longer query are those hits of the shorter one that still match. -/
theorem hits_of_infix {query longer : String} (h : query.toList <:+: longer.toList)
    (index : List Entry) (c : Category) :
    hits index longer c =
      (hits index query c).filter fun e => e.matches (Text.folded longer) := by
  rw [hits, hits, List.filter_filter]
  refine List.filter_congr fun e _ => ?_
  rw [Bool.eq_iff_iff, Bool.and_eq_true, decide_eq_true_iff, decide_eq_true_iff, Entry.matches_iff]
  constructor
  · -- what matches the longer query matches the shorter one
    rintro ⟨hc, hm⟩
    exact ⟨hm, hc, hm.of_infix h⟩
  · rintro ⟨hm, hc, -⟩
    exact ⟨hc, hm⟩

/-! ## Buckets

  With fewer than five entries a bucket holds all hits, and only then can the hits of the longer
  query be told from it. -/

/-- A bucket that has room holds all the hits of its category. -/
theorem get_search_of_room {index : List Entry} {query : String} {c : Category}
    (long : 2 ≤ query.length) (room : ((search index query).get c).length < 5) :
    (search index query).get c = hits index query c := by
  have hget : (search index query).get c = (hits index query c).take 5 :=
    Scan.holds_search index long c
  rw [hget, List.length_take] at room
  rw [hget, List.take_of_length_le (by omega)]

/-- **Typing more never widens a result.**  An entry that matches a query matches every block of it.
    A bucket that had room for more holds, for a longer query, exactly those of its entries that still
    match, in the same order. -/
theorem search_narrows {query longer : String} (long : 2 ≤ query.length)
    (within : query.toList <:+: longer.toList) (index : List Entry) (c : Category) :
    (∀ e : Entry, e.matches (Text.folded longer) = true → e.matches (Text.folded query) = true) ∧
    (((search index query).get c).length < 5 →
      (search index longer).get c =
        ((search index query).get c).filter (fun e => e.matches (Text.folded longer)) ∧
      ((search index longer).get c).Sublist ((search index query).get c)) := by
  refine ⟨fun e hm => ?_, fun room => ?_⟩
  · rw [Entry.matches_iff] at hm ⊢
    exact hm.of_infix within
  · have hlonger : 2 ≤ longer.length := by
      have hle := within.length_le
      rw [String.length_toList, String.length_toList] at hle
      omega
    have hall : (search index query).get c = hits index query c := get_search_of_room long room
    -- what still matches is no more than there was, so it fits into the bucket
    have hkept : (search index longer).get c =
        ((search index query).get c).filter fun e => e.matches (Text.folded longer) := by
      have hfits := List.length_filter_le (fun e : Entry => e.matches (Text.folded longer))
        ((search index query).get c)
      have hget : (search index longer).get c = (hits index longer c).take 5 :=
        Scan.holds_search index hlonger c
      rw [hget, hits_of_infix within, ← hall, List.take_of_length_le (by omega)]
    refine ⟨hkept, ?_⟩
    rw [hkept]
    exact List.filter_sublist

/-- Three classes that mention `us`. -/
def fewClasses : List Entry :=
  [.ofType .classType "app" "User", .ofType .classType "app" "Bus",
    .ofType .classType "app" "UserStore"]

/-- Of three classes that mention `us`, two are left for `use`. -/
theorem fewClasses_narrow :
    2 ≤ "us".length ∧ "us".toList <:+: "use".toList ∧
    ((search fewClasses "us").get (.type .classType)).length < 5 ∧
    (search fewClasses "use").get (.type .classType) =
      [.ofType .classType "app" "User", .ofType .classType "app" "UserStore"] ∧
    ((search fewClasses "use").get (.type .classType)).Sublist
      ((search fewClasses "us").get (.type .classType)) := by
  have long : 2 ≤ "us".length := by decide
  have within : "us".toList <:+: "use".toList := ⟨[], ['e'], by decide⟩
  have room : ((search fewClasses "us").get (.type .classType)).length < 5 := by decide +kernel
  obtain ⟨hkept, hsub⟩ := (search_narrows long within fewClasses (.type .classType)).2 room
  exact ⟨long, within, room, hkept.trans (by decide +kernel), hsub⟩

-- a full bucket has left out the sixth class, which the longer query finds
example :
    let classes := ["User1", "User2", "User3", "User4", "User5", "User6"].map
      (Entry.ofType .classType "app")
    ((search classes "user").get (.type .classType)).length = 5 ∧
    ¬ ((search classes "user6").get (.type .classType)).Sublist
      ((search classes "user").get (.type .classType)) := by decide +kernel

end DocIndex
