/-
  UNKNOWN CATEGORIES ARE INVISIBLE, AND NOTHING ELSE IS FORGIVEN.

  An index comes as a list of arbitrary values.  Before a value is read as an entry, one look at it
  decides whether it is set aside.  The look must neither hide what is malformed nor be stopped by it.

  1. **Reading one after the other** — succeeds with what every item gives, or fails as the first item
     that fails does.  This part is about lists of any kind.

  2. **What is set aside** (`OfUnknownCategory`) — said of the value alone: an object with a category that
     is a string and no category's name.  `isSome_unlisted?_iff` shows that this is what the look finds.
     A value without a category, with a category that is no string, or in the form of a list is not meant.

  3. **The index is its listed values, read one after the other** (`indexed_eq_mapM`) — by induction on
     the list; the values set aside drop out of the result whether it is entries or a fault.

  4. **Main statement** (`unknown_categories_invisible`).
-/
import DocIndex.Proofs.Document.Index

namespace DocIndex

open Json (Fault)

/-! ## Reading one after the other

  How a list is read by a function that may fail, described from the outside.  `mapM` stops at the
  first failure, so its result is told by that item alone. -/

section Items

variable {ε α β : Type} {f : α → Except ε β}

theorem mapM_cons_of_error {x : α} {fault : ε} (h : f x = .error fault) (xs : List α) :
    (x :: xs).mapM f = .error fault := by
  rw [List.mapM_cons, h]
  rfl

theorem mapM_cons_of_ok {x : α} {y : β} (h : f x = .ok y) (xs : List α) :
    (x :: xs).mapM f = (xs.mapM f).map (y :: ·) := by
  rw [List.mapM_cons, h]
  cases xs.mapM f with
  | error fault => rfl
  | ok ys => rfl

/-- Reading succeeds with what every item gives. -/
theorem mapM_eq_ok_iff (xs : List α) : ∀ ys : List β,
    xs.mapM f = .ok ys ↔ xs.map f = ys.map .ok := by
  induction xs with
  | nil =>
    intro ys
    constructor
    · intro h
      cases h
      rfl
    · intro h
      rw [List.map_eq_nil_iff.mp h.symm]
      rfl
  | cons x xs ih =>
    intro ys
    constructor
    · intro h
      -- an item that fails would have made the whole fail
      cases hx : f x with
      | error fault =>
        rw [mapM_cons_of_error hx] at h
        cases h
      | ok y =>
        rw [mapM_cons_of_ok hx] at h
        cases hxs : xs.mapM f with
        | error fault =>
          rw [hxs] at h
          cases h
        | ok zs =>
          rw [hxs] at h
          cases h
          rw [List.map_cons, hx, (ih zs).mp hxs, List.map_cons]
    · intro h
      cases ys with
      | nil => cases h
      | cons y ys =>
        obtain ⟨hx, hxs⟩ := List.cons.inj h
        rw [mapM_cons_of_ok hx, (ih ys).mpr hxs]
        rfl

/-- The first item that cannot be read has this fault. -/
def FirstFault (f : α → Except ε β) (fault : ε) (xs : List α) : Prop :=
  ∃ before x after, xs = before ++ x :: after ∧ (∀ y ∈ before, ∃ z, f y = .ok z) ∧
    f x = .error fault

/-- The first fault is that of the first item, or it is that of the rest and the first item can be
    read. -/
theorem firstFault_cons {fault : ε} {x : α} {xs : List α} :
    FirstFault f fault (x :: xs) ↔
      f x = .error fault ∨ (∃ y, f x = .ok y) ∧ FirstFault f fault xs := by
  constructor
  · -- is there anything before the item that fails?
    rintro ⟨before, z, after, heq, hbefore, hz⟩
    cases before with
    | nil =>
      cases heq
      exact .inl hz
    | cons w before =>
      cases heq
      obtain ⟨hx, hrest⟩ := List.forall_mem_cons.mp hbefore
      exact .inr ⟨hx, before, z, after, rfl, hrest, hz⟩
  · rintro (hx | ⟨hx, before, z, after, rfl, hbefore, hz⟩)
    · exact ⟨[], x, xs, rfl, List.forall_mem_nil _, hx⟩
    · exact ⟨x :: before, z, after, rfl, List.forall_mem_cons.mpr ⟨hx, hbefore⟩, hz⟩

/-- Reading fails as the first item that cannot be read does. -/
theorem mapM_eq_error_iff (fault : ε) (xs : List α) :
    xs.mapM f = .error fault ↔ FirstFault f fault xs := by
  induction xs with
  | nil =>
    constructor
    · intro h
      cases h
    · rintro ⟨before, x, after, hnil, -⟩
      exact absurd hnil.symm (List.append_ne_nil_of_right_ne_nil before (List.cons_ne_nil x after))
  | cons x xs ih =>
    rw [firstFault_cons, ← ih]
    cases hx : f x with
    | error first =>
      rw [mapM_cons_of_error hx]
      simp
    -- the first item can be read, so a fault is one of the rest
    | ok y =>
      rw [mapM_cons_of_ok hx]
      cases xs.mapM f <;> simp [Except.map]

/-- Reading succeeds exactly if every item can be read. -/
theorem exists_mapM_eq_ok_iff (xs : List α) :
    (∃ ys, xs.mapM f = .ok ys) ↔ ∀ x ∈ xs, ∃ y, f x = .ok y := by
  constructor
  · rintro ⟨ys, hys⟩ x hx
    have hmem : f x ∈ ys.map .ok := by
      rw [← (mapM_eq_ok_iff xs ys).mp hys]
      exact List.mem_map_of_mem hx
    obtain ⟨y, -, hy⟩ := List.mem_map.mp hmem
    exact ⟨y, hy.symm⟩
  · intro h
    cases hxs : xs.mapM f with
    | ok ys => exact ⟨ys, rfl⟩
    | error fault =>
      obtain ⟨before, x, after, rfl, -, hx⟩ := (mapM_eq_error_iff fault xs).mp hxs
      obtain ⟨y, hy⟩ := h x (List.mem_append_right before List.mem_cons_self)
      rw [hx] at hy
      cases hy

end Items

/-! ## What is set aside

  The look takes a member of an object by its key and asks whether it is a string and whether that
  is a known name.  It answers for every value, malformed or not, and the predicate says the same
  without looking. -/

/-- A name is unknown if it is the name of no category. -/
theorem Category.ofName?_eq_none_iff (name : String) :
    ofName? name = none ↔ ∀ c : Category, c.name ≠ name := by
  constructor
  · rintro hnone c rfl
    rw [ofName?_name] at hnone
    cases hnone
  · intro h
    refine List.lookup_eq_none_iff.mpr fun p hp => ?_
    obtain ⟨c, -, rfl⟩ := List.mem_map.mp hp
    exact bne_iff_ne.mpr (h c).symm

namespace Document

/-- An object whose category is a string, and not the name of a category. -/
def OfUnknownCategory (v : Json) : Prop :=
  ∃ members category, v = .object members ∧
    members.lookup "category" = some (.string category) ∧ ∀ c : Category, c.name ≠ category

/-- The look finds a category only in an object, and only if it is a string. -/
theorem category_eq_some_iff (v : Json) (category : String) :
    (v.get? "category").bind Json.string? = some category ↔
      ∃ members, v = .object members ∧ members.lookup "category" = some (.string category) := by
  cases v with
  | object members =>
    rw [Json.get?, Option.bind_eq_some_iff]
    constructor
    · rintro ⟨w, hw, hstring⟩
      cases w with
      | string s =>
        cases hstring
        exact ⟨members, rfl, hw⟩
      | null | bool | number | list | object => cases hstring
    · rintro ⟨_, hv, hmember⟩
      cases hv
      exact ⟨.string category, hmember, rfl⟩
  -- nothing but an object has members
  | null | bool | number | string | list =>
    constructor
    · intro h
      cases h
    · rintro ⟨_, hv, -⟩
      cases hv

/-- The look at a value finds what is of an unknown category, and nothing else. -/
theorem isSome_unlisted?_iff (v : Json) : (unlisted? v).isSome = true ↔ OfUnknownCategory v := by
  have hlook : (unlisted? v).isSome = true ↔
      ∃ category, (v.get? "category").bind Json.string? = some category ∧
        Category.ofName? category = none := by
    unfold unlisted?
    cases (v.get? "category").bind Json.string? with
    | none => simp
    | some category => cases hname : Category.ofName? category <;> simp [hname]
  rw [hlook]
  constructor
  · rintro ⟨category, hcategory, hname⟩
    obtain ⟨members, hv, hmember⟩ := (category_eq_some_iff v category).mp hcategory
    exact ⟨members, category, hv, hmember, (Category.ofName?_eq_none_iff category).mp hname⟩
  · rintro ⟨members, category, hv, hmember, hname⟩
    exact ⟨category, (category_eq_some_iff v category).mpr ⟨members, hv, hmember⟩,
      (Category.ofName?_eq_none_iff category).mpr hname⟩

instance (v : Json) : Decidable (OfUnknownCategory v) := decidable_of_iff _ (isSome_unlisted?_iff v)

/-- The values that are left when those of an unknown category are removed. -/
def listed (vs : List Json) : List Json := vs.filter fun v => !decide (OfUnknownCategory v)

theorem listed_cons_of_unknown {v : Json} (h : OfUnknownCategory v) (vs : List Json) :
    listed (v :: vs) = listed vs := by
  refine List.filter_cons_of_neg ?_
  rw [decide_eq_true h]
  exact Bool.false_ne_true

theorem listed_cons_of_not {v : Json} (h : ¬ OfUnknownCategory v) (vs : List Json) :
    listed (v :: vs) = v :: listed vs := by
  refine List.filter_cons_of_pos ?_
  rw [decide_eq_false h]
  rfl

/-- `ws` is `vs` with values of an unknown category put in, anywhere. -/
inductive Interspersed : List Json → List Json → Prop where
  | nil : Interspersed [] []
  | kept {vs ws : List Json} (v : Json) (rest : Interspersed vs ws) : Interspersed (v :: vs) (v :: ws)
  | extra {vs ws : List Json} {v : Json} (unknown : OfUnknownCategory v) (rest : Interspersed vs ws) :
      Interspersed vs (v :: ws)

/-- What was put in is what is removed again. -/
theorem Interspersed.listed_eq {vs ws : List Json} (h : Interspersed vs ws) : listed ws = listed vs := by
  induction h with
  | nil => rfl
  | @kept vs ws v _ ih =>
    -- what is kept may be of an unknown category itself
    by_cases hv : OfUnknownCategory v
    · rw [listed_cons_of_unknown hv, listed_cons_of_unknown hv, ih]
    · rw [listed_cons_of_not hv, listed_cons_of_not hv, ih]
  | extra unknown _ ih => rw [listed_cons_of_unknown unknown, ih]

/-! ## The index is its listed values

  The reader decides for each value as it comes to it.  That the decision may as well be made for
  all of them beforehand is the content of `indexed_eq_mapM`. -/

/-- The entries of an index. -/
def indexed (vs : List Json) : Except Fault (List Entry) := (entries vs).map Prod.fst

/-- A value of an unknown category is passed over, and what comes behind it is still read: the
    result is that of the rest, fault or not. -/
theorem indexed_cons_of_unknown {v : Json} (h : OfUnknownCategory v) (vs : List Json) :
    indexed (v :: vs) = indexed vs := by
  obtain ⟨u, hu⟩ := Option.isSome_iff_exists.mp ((isSome_unlisted?_iff v).mpr h)
  unfold indexed
  rw [entries, hu]
  cases entries vs with
  | error fault => rfl
  | ok found => rfl

/-- Any other value has to be an entry. -/
theorem indexed_cons_of_not {v : Json} (h : ¬ OfUnknownCategory v) (vs : List Json) :
    indexed (v :: vs) = do
      let e ← Entry.ofJson v
      let es ← indexed vs
      return e :: es := by
  have hu : unlisted? v = none := by
    rw [← Option.not_isSome_iff_eq_none, isSome_unlisted?_iff]
    exact h
  unfold indexed
  rw [entries, hu]
  cases Entry.ofJson v with
  | error fault => rfl
  | ok e =>
    cases entries vs with
    | error fault => rfl
    | ok found => rfl

/-- **The index** is read from its listed values, one after the other. -/
theorem indexed_eq_mapM (vs : List Json) : indexed vs = (listed vs).mapM Entry.ofJson := by
  induction vs with
  | nil => rfl
  | cons v vs ih =>
    by_cases hv : OfUnknownCategory v
    · rw [indexed_cons_of_unknown hv, listed_cons_of_unknown hv, ih]
    · rw [indexed_cons_of_not hv, listed_cons_of_not hv, List.mapM_cons, ih]

/-- **Unknown categories are invisible, and nothing else is forgiven.**  For every list of values:

    * with objects of an unknown category put in or taken out, anywhere and whatever else they hold, the
      result is the same, be it entries or a fault;
    * it is entries exactly if every value that is listed can be read as one, and then these in order;
    * it is a fault exactly if the first listed value that cannot be read has this fault. -/
theorem unknown_categories_invisible (vs : List Json) :
    (∀ ws, Interspersed vs ws ∨ Interspersed ws vs → indexed ws = indexed vs) ∧
    ((∃ es, indexed vs = .ok es) ↔ ∀ v ∈ listed vs, ∃ e, Entry.ofJson v = .ok e) ∧
    (∀ es, indexed vs = .ok es ↔ (listed vs).map Entry.ofJson = es.map .ok) ∧
    (∀ fault, indexed vs = .error fault ↔ FirstFault Entry.ofJson fault (listed vs)) := by
  rw [indexed_eq_mapM]
  refine ⟨?_, exists_mapM_eq_ok_iff _, mapM_eq_ok_iff _, fun fault => mapM_eq_error_iff fault _⟩
  rintro ws (h | h)
  · rw [indexed_eq_mapM, h.listed_eq]
  · rw [indexed_eq_mapM, h.listed_eq]

-- in the form of a list, an entry of the same category is a fault
example : indexed [.object [("category", .string "constructor")]] = .ok [] ∧
    indexed [.list [.string "constructor"]] =
      .error (.unknownName "constructor" (Category.known.map (·.1))) := ⟨rfl, rfl⟩

end Document
end DocIndex
