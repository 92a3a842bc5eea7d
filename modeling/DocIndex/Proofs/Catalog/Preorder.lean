/-
  A CATALOG LISTS A DOCUMENT IN PREORDER.

  The types of a document form a tree of any shape: packages, their types, types inside these.  A
  catalog is filled by walking through it, and the walk is never cut short: what is inside a type that
  is dropped is still visited.

  1. **Specification** — a declaration has an ADDRESS, the places taken on the way to it (`Declares`).
     `Earlier` is the order of addresses: a type before the types inside it, and these before the next
     type.  `InOrder` says that a list holds what is at the addresses, all of it and in their order.
     None of this mentions the walk.

  2. **The walk** (`inOrder_listing`) — what the walk adds is the listing of the document.  One lemma for
     what stands below a root, one for what stands in a row of siblings (`inOrder_row`); a type is a
     root above a row, a document a row of rows.  The induction for a row is from its end, where the
     place of the last sibling is the length of the rest.

  3. **What stays** (`InOrder.first`) — of an ordered list, keeping what was declared first keeps the
     order, and "earlier in the list" becomes "at an earlier address".

  4. **Counts** — types are counted by a recursion of their own, and every record that is not kept is
     reported.

  5. **Main statement** (`ofDocument_lists_first_declarations`).
-/
import DocIndex.Proofs.Catalog.Lookup

namespace DocIndex

/-! ## Addresses

  The specification: where something is declared, and which of two places comes first.  An address
  is a list of places, and the order of addresses is the lexicographic one, so a type comes before
  what is inside of it because its address is the shorter. -/

/-- The places taken on the way to something, from the outside in. -/
abbrev Address := List Nat

/-- The order of addresses: what lies on the way comes first, then the lower place. -/
def Earlier (a b : Address) : Prop := List.Lex (· < ·) a b

theorem not_earlier_self (a : Address) : ¬ Earlier a a := List.lex_irrefl Nat.lt_irrefl a

theorem Earlier.trans {a b c : Address} (hab : Earlier a b) (hbc : Earlier b c) : Earlier a c :=
  List.lex_trans Nat.lt_trans hab hbc

theorem Earlier.asymm {a b : Address} (hab : Earlier a b) : ¬ Earlier b a :=
  fun hba => not_earlier_self a (hab.trans hba)

/-- The list holds what is at the addresses, all of it and in the order of the addresses. -/
def InOrder {α : Type} (At : Address → α → Prop) (xs : List α) : Prop :=
  ∃ placed : List (Address × α), placed.map Prod.snd = xs ∧
    placed.Pairwise (fun p q => Earlier p.1 q.1) ∧ ∀ a x, (a, x) ∈ placed ↔ At a x

/-- What a package declares by a type. -/
def TypeDecl.record (package : String) (t : TypeDecl) : Record :=
  ⟨t.qualifiedName, t.name, package, t.kind⟩

/-- What a type declares: itself, and at further places the types inside it. -/
def TypeDecl.Declares (package : String) : TypeDecl → Address → Record → Prop
  | t, [], r => r = t.record package
  | t, i :: a, r => ∃ s, t.inner[i]? = some s ∧ s.Declares package a r

/-- What a document declares: at the place of a package and that of a type in it, and at further places
    the types inside it. -/
def Document.Declares (d : Document) : Address → Record → Prop
  | p :: i :: a, r => ∃ package t, d.packages[p]? = some package ∧ package.types[i]? = some t ∧
      t.Declares package.name a r
  | _, _ => False

/-- What a document declares under a qualified name that no earlier address has. -/
def Document.DeclaresFirst (d : Document) (a : Address) (r : Record) : Prop :=
  d.Declares a r ∧
  ∀ b s, d.Declares b s → Earlier b a → s.qualifiedName ≠ r.qualifiedName

/-! ## Roots and rows

  Trees are made of two things, a root above a row and a row of siblings, and each keeps the order.
  `InOrder` carries the list of addresses along with what stands at them; without it one could not
  say which of two equal records comes first. -/

/-- What is at the addresses in a row of siblings: the first place says in which of them. -/
def InRow {α β : Type} (At : β → Address → α → Prop) (row : List β) : Address → α → Prop
  | [], _ => False
  | i :: a, x => ∃ b, row[i]? = some b ∧ At b a x

section Rows

variable {α β : Type} {At : β → Address → α → Prop}

theorem InRow.place_lt {row : List β} {i : Nat} {a : Address} {x : α} (h : InRow At row (i :: a) x) :
    i < row.length := by
  obtain ⟨b, hb, -⟩ := h
  exact (List.getElem?_eq_some_iff.mp hb).1

/-- A last sibling adds what is in it, at a place of its own. -/
theorem inRow_snoc (row : List β) (b : β) (a : Address) (x : α) :
    InRow At (row ++ [b]) a x ↔
      InRow At row a x ∨ ∃ a', a = row.length :: a' ∧ At b a' x := by
  cases a with
  -- a row has nothing at its root
  | nil =>
    constructor
    · intro h
      cases h
    · rintro (h | ⟨a', h, -⟩)
      · cases h
      · cases h
  | cons i a =>
    constructor
    · rintro ⟨c, hc, hat⟩
      -- one of the old siblings, or the new one at the end
      rcases Nat.lt_or_ge i row.length with hlt | hge
      · rw [List.getElem?_append_left hlt] at hc
        exact .inl ⟨c, hc, hat⟩
      · rw [List.getElem?_append_right hge, List.getElem?_singleton] at hc
        split at hc
        · cases hc
          obtain rfl : i = row.length := by omega
          exact .inr ⟨a, rfl, hat⟩
        · cases hc
    · rintro (h | ⟨a', heq, hat⟩)
      · have hlt := h.place_lt
        obtain ⟨c, hc, hat⟩ := h
        exact ⟨c, by rw [List.getElem?_append_left hlt, hc], hat⟩
      · cases heq
        exact ⟨b, List.getElem?_concat_length, hat⟩

/-- **A row** is listed in order if its members are. -/
theorem inOrder_row {list : β → List α} (row : List β) :
    (∀ b ∈ row, InOrder (At b) (list b)) → InOrder (InRow At row) (row.flatMap list) := by
  induction row using List.reverseRecOn with
  | nil =>
    intro _
    refine ⟨[], rfl, List.Pairwise.nil, fun a x => ?_⟩
    constructor
    · intro h
      cases h
    · intro h
      cases a with
      | nil => cases h
      | cons i a => exact absurd h.place_lt (Nat.not_lt_zero i)
  | append_singleton row b ih =>
    intro h
    obtain ⟨front, hfront, hsorted, hmem⟩ := ih fun c hc => h c (List.mem_append_left _ hc)
    obtain ⟨back, hback, hsorted', hmem'⟩ := h b (List.mem_append_right _ List.mem_cons_self)
    refine ⟨front ++ back.map fun p => (row.length :: p.1, p.2), ?_, ?_, fun a x => ?_⟩
    · rw [List.map_append, hfront, List.map_map, List.flatMap_append, List.flatMap_singleton, ← hback]
      rfl
    · rw [List.pairwise_append, List.pairwise_map]
      refine ⟨hsorted, hsorted'.imp fun hpq => List.Lex.cons hpq, fun p hp q hq => ?_⟩
      -- what is in the row so far has a lower first place
      obtain ⟨q', -, rfl⟩ := List.mem_map.mp hq
      obtain ⟨a, x⟩ := p
      have hat := (hmem a x).mp hp
      cases a with
      | nil => cases hat
      | cons i a => exact List.Lex.rel hat.place_lt
    · rw [List.mem_append, hmem, inRow_snoc]
      refine or_congr Iff.rfl ?_
      constructor
      · intro hmap
        obtain ⟨q, hq, heq⟩ := List.mem_map.mp hmap
        cases heq
        exact ⟨q.1, rfl, (hmem' q.1 q.2).mp hq⟩
      · rintro ⟨a', rfl, hat⟩
        exact List.mem_map.mpr ⟨(a', x), (hmem' a' x).mpr hat, rfl⟩

/-- **A root** comes before the row below it. -/
theorem InOrder.root {row : List β} {xs : List α} (h : InOrder (InRow At row) xs)
    {Rooted : Address → α → Prop} {x : α} (hroot : ∀ y, Rooted [] y ↔ y = x)
    (hbelow : ∀ i a y, Rooted (i :: a) y ↔ InRow At row (i :: a) y) : InOrder Rooted (x :: xs) := by
  obtain ⟨placed, hplaced, hsorted, hmem⟩ := h
  refine ⟨([], x) :: placed, ?_, ?_, fun a y => ?_⟩
  · rw [List.map_cons, hplaced]
  · refine List.pairwise_cons.mpr ⟨fun q hq => ?_, hsorted⟩
    obtain ⟨a, y⟩ := q
    cases a with
    | nil => cases (hmem [] y).mp hq
    | cons i a => exact List.Lex.nil
  · -- the root is at the empty address, and nothing else is
    cases a with
    | nil =>
      rw [hroot, List.mem_cons]
      constructor
      · rintro (heq | hin)
        · cases heq
          rfl
        · cases (hmem [] y).mp hin
      · rintro rfl
        exact .inl rfl
    | cons i a =>
      rw [hbelow, ← hmem, List.mem_cons]
      refine or_iff_right fun heq => ?_
      cases heq

end Rows

/-- Only what is at the addresses counts, not how that is said. -/
theorem InOrder.congr {α : Type} {At At' : Address → α → Prop} {xs : List α} (h : InOrder At xs)
    (hsame : ∀ a x, At a x ↔ At' a x) : InOrder At' xs := by
  obtain ⟨placed, hplaced, hsorted, hmem⟩ := h
  exact ⟨placed, hplaced, hsorted, fun a x => (hmem a x).trans (hsame a x)⟩

/-! ## The walk

  The walk `insertTree` adds the listing of what it walks through (`insertTree_eq_foldl`), so the
  listing is the order of the walk.  The induction follows the listing: a type is a root above the
  row of its inner types. -/

namespace TypeDecl

/-- The listing of a row of types is the listings of its members, one after the other. -/
theorem listings_eq_flatMap (package : String) (ts : List TypeDecl) :
    listings package ts = ts.flatMap (listing package) := by
  induction ts with
  | nil => rfl
  | cons t ts ih => rw [listings, ih, List.flatMap_cons]

mutual

/-- **A type** is listed in preorder. -/
theorem inOrder_listing (package : String) (t : TypeDecl) :
    InOrder (t.Declares package) (listing package t) := by
  match t with
  | ⟨kind, name, qualifiedName, inner⟩ =>
    have hinner : InOrder (InRow (TypeDecl.Declares package) inner) (listings package inner) := by
      rw [listings_eq_flatMap]
      exact inOrder_row inner (forall_inOrder_listing package inner)
    rw [listing]
    exact hinner.root (fun _ => Iff.rfl) (fun _ _ _ => Iff.rfl)

/-- The same for each type of a row. -/
theorem forall_inOrder_listing (package : String) (ts : List TypeDecl) :
    ∀ t ∈ ts, InOrder (t.Declares package) (listing package t) := by
  match ts with
  | [] => exact List.forall_mem_nil _
  | t :: ts =>
    exact List.forall_mem_cons.mpr
      ⟨inOrder_listing package t, forall_inOrder_listing package ts⟩

end

end TypeDecl

/-- **A document** is listed in preorder. -/
theorem Document.inOrder_listing (d : Document) : InOrder d.Declares d.listing := by
  have hpackage : ∀ p ∈ d.packages,
      InOrder (InRow (TypeDecl.Declares p.name) p.types) (TypeDecl.listings p.name p.types) := by
    intro p _
    rw [TypeDecl.listings_eq_flatMap]
    exact inOrder_row p.types (TypeDecl.forall_inOrder_listing p.name p.types)
  have hrow : InOrder (InRow (fun p : Package => InRow (TypeDecl.Declares p.name) p.types) d.packages)
      d.listing := inOrder_row d.packages hpackage
  -- a row of rows is what a document declares; an address of one place leads to a package, which
  -- declares nothing itself
  refine hrow.congr fun a r => ?_
  match a with
  | [] => exact Iff.rfl
  | [p] =>
    constructor
    · rintro ⟨_, _, h⟩
      cases h
    · intro h
      cases h
  | p :: i :: a =>
    constructor
    · rintro ⟨package, hpackage, t, ht, hat⟩
      exact ⟨package, t, hpackage, ht, hat⟩
    · rintro ⟨package, t, hpackage, ht, hat⟩
      exact ⟨package, hpackage, t, ht, hat⟩

/-! ## What stays

  Induction from the end of the list, as a catalog grows: what comes last is later than all before
  it and takes nothing away from them. -/

/-- Nothing among `placed` is earlier and has the same qualified name. -/
def Unpreceded (placed : List (Address × Record)) (p : Address × Record) : Prop :=
  ∀ q ∈ placed, Earlier q.1 p.1 → q.2.qualifiedName ≠ p.2.qualifiedName

section Last

variable {placed : List (Address × Record)} {last : Address × Record}

/-- What comes last is not earlier than anything. -/
theorem unpreceded_snoc (hlast : ∀ q ∈ placed, Earlier q.1 last.1) {p : Address × Record}
    (hp : p ∈ placed) : Unpreceded (placed ++ [last]) p ↔ Unpreceded placed p := by
  unfold Unpreceded
  rw [List.forall_mem_append, List.forall_mem_singleton]
  exact and_iff_left fun hearlier => absurd hearlier (hlast p hp).asymm

/-- Everything is earlier than what comes last. -/
theorem unpreceded_last (hlast : ∀ q ∈ placed, Earlier q.1 last.1) :
    Unpreceded (placed ++ [last]) last ↔
      last.2.qualifiedName ∉ (placed.map Prod.snd).map Record.qualifiedName := by
  unfold Unpreceded
  rw [List.forall_mem_append, List.forall_mem_singleton, List.map_map, List.mem_map]
  constructor
  · rintro ⟨h, -⟩ ⟨q, hq, heq⟩
    exact h q hq (hlast q hq) heq
  · intro h
    exact ⟨fun q hq _ heq => h ⟨q, hq, heq⟩, fun hearlier => absurd hearlier (not_earlier_self _)⟩

end Last

/-- Of things in order, those are kept whose qualified name no earlier one has. -/
theorem exists_kept (placed : List (Address × Record)) :
    placed.Pairwise (fun p q => Earlier p.1 q.1) →
    ∃ kept : List (Address × Record), kept.map Prod.snd = firstDeclared (placed.map Prod.snd) ∧
      kept.Sublist placed ∧ ∀ p, p ∈ kept ↔ p ∈ placed ∧ Unpreceded placed p := by
  induction placed using List.reverseRecOn with
  | nil =>
    intro _
    refine ⟨[], rfl, List.Sublist.refl _, fun p => ?_⟩
    exact (and_iff_left_of_imp fun h => absurd h List.not_mem_nil).symm
  | append_singleton placed last ih =>
    intro hsorted
    obtain ⟨hfront, -, hback⟩ := List.pairwise_append.mp hsorted
    have hlast : ∀ q ∈ placed, Earlier q.1 last.1 := fun q hq => hback q hq last List.mem_cons_self
    obtain ⟨kept, hmap, hsub, hmem⟩ := ih hfront
    have hkept : ∀ p, p ∈ kept ↔ p ∈ placed ∧ Unpreceded (placed ++ [last]) p := fun p =>
      (hmem p).trans (and_congr_right fun hp => (unpreceded_snoc hlast hp).symm)
    rw [List.map_append, List.map_singleton, firstDeclared_snoc]
    -- is the last one new?
    by_cases hknown : last.2.qualifiedName ∈ (placed.map Prod.snd).map Record.qualifiedName
    · refine ⟨kept, ?_, hsub.trans (List.sublist_append_left _ _), fun p => ?_⟩
      · rw [if_pos hknown, List.append_nil, hmap]
      · rw [hkept, List.mem_append, List.mem_singleton, or_and_right]
        refine (or_iff_left ?_).symm
        rintro ⟨rfl, h⟩
        exact (unpreceded_last hlast).mp h hknown
    · refine ⟨kept ++ [last], ?_, hsub.append (List.Sublist.refl _), fun p => ?_⟩
      · rw [if_neg hknown, List.map_append, hmap, List.map_singleton]
      · rw [List.mem_append, hkept, List.mem_append, List.mem_singleton, or_and_right]
        refine or_congr Iff.rfl (iff_self_and.mpr ?_)
        rintro rfl
        exact (unpreceded_last hlast).mpr hknown

/-- **What stays** is in order too. -/
theorem InOrder.first {At : Address → Record → Prop} {rs : List Record} (h : InOrder At rs) :
    InOrder (fun a r => At a r ∧ ∀ b s, At b s → Earlier b a → s.qualifiedName ≠ r.qualifiedName)
      (firstDeclared rs) := by
  obtain ⟨placed, rfl, hsorted, hat⟩ := h
  obtain ⟨kept, hmap, hsub, hmem⟩ := exists_kept placed hsorted
  refine ⟨kept, hmap, hsorted.sublist hsub, fun a r => ?_⟩
  rw [hmem, hat]
  refine and_congr_right fun _ => ?_
  constructor
  · intro hno b s hbs
    exact hno (b, s) ((hat b s).mpr hbs)
  · rintro hno ⟨b, s⟩ hbs
    exact hno b s ((hat b s).mp hbs)

/-! ## Counts

  A second way to the number of records: count the types, without listing them. -/

namespace TypeDecl

mutual

/-- A type is listed with all that is inside of it, once each. -/
theorem length_listing (package : String) (t : TypeDecl) :
    (listing package t).length = count t := by
  match t with
  | ⟨_, _, _, inner⟩ => rw [listing, List.length_cons, length_listings package inner, count]

theorem length_listings (package : String) (ts : List TypeDecl) :
    (listings package ts).length = countAll ts := by
  match ts with
  | [] => rfl
  | t :: ts =>
    rw [listings, List.length_append, length_listing package t, length_listings package ts, countAll]

end

end TypeDecl

/-- Every type that is counted is listed. -/
theorem Document.length_listing (d : Document) : d.listing.length = d.typeCount := by
  unfold listing typeCount
  induction d.packages with
  | nil => rfl
  | cons p ps ih =>
    rw [List.flatMap_cons, List.length_append, TypeDecl.length_listings, ih, List.foldr_cons]

/-- Records are dropped, and none is moved or brought in. -/
theorem firstDeclared_sublist (rs : List Record) : (firstDeclared rs).Sublist rs := by
  induction rs using List.reverseRecOn with
  | nil => exact List.Sublist.refl _
  | append_singleton rs r ih =>
    rw [firstDeclared_snoc]
    refine ih.append ?_
    split
    · exact List.nil_sublist _
    · exact List.Sublist.refl _

/-- Where all qualified names are distinct, all records stay. -/
theorem firstDeclared_eq_self {rs : List Record} :
    (rs.map Record.qualifiedName).Nodup → firstDeclared rs = rs := by
  induction rs using List.reverseRecOn with
  | nil => exact fun _ => rfl
  | append_singleton rs r ih =>
    intro h
    rw [List.map_append, List.nodup_append] at h
    obtain ⟨hfront, -, hnew⟩ := h
    have hnot : r.qualifiedName ∉ rs.map Record.qualifiedName :=
      fun hmem => hnew _ hmem _ List.mem_cons_self rfl
    rw [firstDeclared_snoc, if_neg hnot, ih hfront]

/-- Nothing is dropped exactly if all qualified names are distinct. -/
theorem length_firstDeclared_iff (rs : List Record) :
    (firstDeclared rs).length = rs.length ↔ (rs.map Record.qualifiedName).Nodup := by
  constructor
  · intro h
    have hself := (firstDeclared_sublist rs).eq_of_length h
    rw [← hself]
    exact nodup_names_firstDeclared rs
  · intro h
    rw [firstDeclared_eq_self h]

namespace Catalog

/-- A record is added or reported. -/
theorem size_add_length_dropped (rs : List Record) : ∀ c : Catalog,
    (rs.foldl insert c).records.size + (c.dropped rs).length = c.records.size + rs.length := by
  induction rs with
  | nil => exact fun _ => rfl
  | cons r rs ih =>
    intro c
    have hrest := ih (c.insert r)
    rw [List.foldl_cons, dropped, List.length_cons]
    split
    · -- reported, and the catalog stays as it is
      rename_i hhas
      have hsame : (c.insert r).records.size = c.records.size := by rw [insert, if_pos hhas]
      rw [List.length_cons]
      omega
    · -- added, and not reported
      rename_i hnew
      have hmore : (c.insert r).records.size = c.records.size + 1 := by
        rw [insert, if_neg hnew, Array.size_push]
      omega

/-- **A catalog lists what a document declares first.**

    * The records of a document are listed in preorder: packages in their order, types in theirs, every
      type before the types inside it.
    * Its catalog holds them without those whose qualified name occurred earlier; so what a catalog holds
      is, in the order of the addresses, what the document declares under a name that no earlier address
      has.  Nothing else counts: a type inside one that was dropped is there if its own name is new.
    * Every type that the document counts is in the catalog or reported as a repetition, and all of them
      are in the catalog exactly if their qualified names are distinct. -/
theorem ofDocument_lists_first_declarations (d : Document) :
    InOrder d.Declares d.listing ∧
    (ofDocument d).records.toList = firstDeclared d.listing ∧
    InOrder d.DeclaresFirst (ofDocument d).records.toList ∧
    (ofDocument d).records.size + (repeated d).length = d.typeCount ∧
    ((ofDocument d).records.size = d.typeCount ↔
      (d.listing.map Record.qualifiedName).Nodup) := by
  have hlisting := d.inOrder_listing
  have hrecords : (ofDocument d).records.toList = firstDeclared d.listing :=
    (represents_ofDocument d).records
  refine ⟨hlisting, hrecords, ?_, ?_, ?_⟩
  · rw [hrecords]
    exact hlisting.first
  · have hcount := size_add_length_dropped d.listing empty
    rw [d.length_listing] at hcount
    rw [ofDocument_eq_ofList, ofList, repeated, hcount]
    exact Nat.zero_add _
  · rw [← Array.length_toList, hrecords, ← d.length_listing]
    exact length_firstDeclared_iff d.listing

-- the second `p.A` is dropped, and what is inside it stays
example : (firstDeclared (Document.listing ⟨[⟨"p", [
      ⟨.classType, "A", "p.A", [⟨.enumType, "Mode", "p.A.Mode", []⟩]⟩,
      ⟨.classType, "A", "p.A", [⟨.enumType, "Mode", "p.A.Mode", []⟩, ⟨.enumType, "Sort", "p.A.Sort", []⟩]⟩]⟩],
      []⟩)).map Record.qualifiedName = ["p.A", "p.A.Mode", "p.A.Sort"] := by decide

end Catalog
end DocIndex
