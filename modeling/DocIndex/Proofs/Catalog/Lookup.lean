/-
  LOOK-UPS IN A CATALOG.

  A catalog keeps its records in a list and two hash indexes beside it, with different rules: a
  qualified name has one record, a simple name leads to the first of several.

  1. **Specification** — `firstDeclared rs`: of the records `rs`, those whose qualified name did not
     occur earlier among them, in their order.  A look-up is a search in that list from its front.

  2. **The invariant** (`Indexes`) — each index gives, for every name, the place of the FIRST record
     of that name (`List.findIdx?`).  For qualified names the first is the only one; that both
     indexes can be described alike is what makes one lemma do for both look-ups.

  3. **The step** (`Represents.insert`) — a new record comes to the end.  A simple name that is known
     keeps its place, and the qualified name cannot be known.

  4. **The walk** (`insertTree_eq_foldl`) — a document is walked through type by type, with the catalog
     in hand.  The walk does what adding the listing of the document does, so all that is said of lists
     of records holds of documents (`represents_ofDocument`).

  5. **Main statement** (`ofList_looks_up_first_declared`) — the records, the ranges of the indexes,
     the three look-ups, and that a record that was dropped has left nothing behind.
-/
import Mathlib.Data.List.Induction
import Mathlib.Data.List.Nodup
import DocIndex.Catalog

namespace DocIndex

/-! ## The records that stay

  The specification has to say which of two records with one qualified name stays, without saying
  how that is found out.  It goes through the list from the front and remembers the names it has
  seen; the catalog remembers them in an index. -/

/-- The records whose qualified name is not among `seen` and did not occur earlier in the list. -/
def firstUnseen (seen : List String) : List Record → List Record
  | [] => []
  | r :: rs =>
    if r.qualifiedName ∈ seen then firstUnseen (r.qualifiedName :: seen) rs
    else r :: firstUnseen (r.qualifiedName :: seen) rs

/-- The records without those whose qualified name occurred earlier. -/
def firstDeclared (rs : List Record) : List Record := firstUnseen [] rs

/-- A last record stays unless its qualified name was seen or occurred before it.  Catalogs grow at
    the end while `firstUnseen` recurses from the front, and this equation turns the one into the
    other. -/
theorem firstUnseen_snoc (rs : List Record) (r : Record) : ∀ seen : List String,
    firstUnseen seen (rs ++ [r]) = firstUnseen seen rs ++
      if r.qualifiedName ∈ seen ∨ r.qualifiedName ∈ rs.map Record.qualifiedName then [] else [r] := by
  induction rs with
  | nil =>
    intro seen
    by_cases h : r.qualifiedName ∈ seen
    · simp [firstUnseen, h]
    · simp [firstUnseen, h]
  | cons s rs ih =>
    intro seen
    have hsame : (r.qualifiedName ∈ s.qualifiedName :: seen ∨
        r.qualifiedName ∈ rs.map Record.qualifiedName) ↔
        (r.qualifiedName ∈ seen ∨ r.qualifiedName ∈ (s :: rs).map Record.qualifiedName) := by
      rw [List.map_cons, List.mem_cons, List.mem_cons, or_assoc, or_left_comm]
    rw [List.cons_append, firstUnseen, firstUnseen, ih]
    simp only [hsame]
    split
    · rfl
    · rfl

/-- What comes last stays exactly if its qualified name is new. -/
theorem firstDeclared_snoc (rs : List Record) (r : Record) :
    firstDeclared (rs ++ [r]) =
      firstDeclared rs ++ if r.qualifiedName ∈ rs.map Record.qualifiedName then [] else [r] := by
  rw [firstDeclared, firstUnseen_snoc]
  simp only [List.not_mem_nil, false_or]
  rfl

/-- No qualified name is lost. -/
theorem mem_names_firstDeclared (rs : List Record) (name : String) :
    name ∈ (firstDeclared rs).map Record.qualifiedName ↔ name ∈ rs.map Record.qualifiedName := by
  induction rs using List.reverseRecOn with
  | nil => exact Iff.rfl
  | append_singleton rs r ih =>
    rw [firstDeclared_snoc, List.map_append, List.map_append, List.mem_append, List.mem_append, ih]
    split
    · -- the last record is dropped because its name is there already
      rename_i hmem
      constructor
      · rintro (h | h)
        · exact .inl h
        · cases h
      · rintro (h | h)
        · exact .inl h
        · rw [List.map_singleton, List.mem_singleton] at h
          subst h
          exact .inl hmem
    · rfl

/-- The qualified names that stay are distinct. -/
theorem nodup_names_firstDeclared (rs : List Record) :
    ((firstDeclared rs).map Record.qualifiedName).Nodup := by
  induction rs using List.reverseRecOn with
  | nil => exact List.nodup_nil
  | append_singleton rs r ih =>
    rw [firstDeclared_snoc]
    split
    · rw [List.append_nil]
      exact ih
    · -- the last record stays, and its name is new
      rename_i hnew
      rw [List.map_append, List.nodup_append]
      refine ⟨ih, List.nodup_singleton _, fun a ha b hb => ?_⟩
      rw [List.map_singleton, List.mem_singleton] at hb
      subst hb
      rintro rfl
      exact hnew ((mem_names_firstDeclared rs _).mp ha)

-- a record that is dropped takes its simple name along
example :
    (firstDeclared [⟨"a.X", "X", "a", .classType⟩, ⟨"a.X", "Y", "a", .enumType⟩,
      ⟨"b.X", "X", "b", .classType⟩]).map Record.name = ["X", "X"] := by decide

/-! ## The two indexes

  One statement for both, with the name that is looked up as a parameter.  The program puts
  qualified names in by overwriting and simple names only if they are new; that the first is
  harmless is `Indexes.insert`. -/

namespace Catalog

/-- The index leads every name to the place of the first record that bears it. -/
def Indexes (index : Std.HashMap String Nat) (key : Record → String) (rs : List Record) : Prop :=
  ∀ name, index[name]? = rs.findIdx? (key · == name)

/-- Where an index leads there is a record. -/
theorem Indexes.lt_length {index : Std.HashMap String Nat} {key : Record → String}
    {rs : List Record} (h : Indexes index key rs) {name : String} {i : Nat}
    (hi : index[name]? = some i) : i < rs.length := by
  rw [h name] at hi
  obtain ⟨hlt, -⟩ := List.findIdx?_eq_some_iff_getElem.mp hi
  exact hlt

/-- Going through an index is searching the list from its front. -/
theorem Indexes.bind_getElem? {index : Std.HashMap String Nat} {key : Record → String}
    {records : Array Record} (h : Indexes index key records.toList) (name : String) :
    index[name]?.bind (records[·]?) = records.toList.find? (key · == name) := by
  rw [h name, List.find?_eq_bind_findIdx?_getElem?]
  simp only [Array.getElem?_toList]

/-- A name is in an index exactly if a record bears it. -/
theorem Indexes.contains_iff {index : Std.HashMap String Nat} {key : Record → String}
    {rs : List Record} (h : Indexes index key rs) (name : String) :
    index.contains name = true ↔ name ∈ rs.map key := by
  rw [Std.HashMap.contains_eq_isSome_getElem?, h name, List.findIdx?_isSome, List.any_eq_true,
    List.mem_map]
  simp only [beq_iff_eq]

/-- The first place of a name after one more record: the old one if there was one, and else the
    place of the new record if it bears the name. -/
theorem findIdx?_snoc (key : Record → String) (rs : List Record) (r : Record) (name : String) :
    (rs ++ [r]).findIdx? (key · == name) =
      (rs.findIdx? (key · == name)).or (if key r = name then some rs.length else none) := by
  rw [List.findIdx?_append, List.findIdx?_cons]
  by_cases h : key r = name
  · simp [h]
  · simp [h]

/-- **The step for an index**: the place of the new record counts unless its name is known. -/
theorem Indexes.insertIfNew {index : Std.HashMap String Nat} {key : Record → String}
    {rs : List Record} (h : Indexes index key rs) (r : Record) :
    Indexes (index.insertIfNew (key r) rs.length) key (rs ++ [r]) := by
  intro name
  rw [findIdx?_snoc, Std.HashMap.getElem?_insertIfNew, ← h name]
  by_cases hname : key r = name
  · subst hname
    -- known: the earlier place counts, and nothing is put in
    by_cases hmem : key r ∈ index
    · obtain ⟨i, hi⟩ := Option.isSome_iff_exists.mp (Std.HashMap.mem_iff_isSome_getElem?.mp hmem)
      rw [if_neg (fun h => h.2 hmem), hi, Option.some_or]
    · rw [if_pos ⟨beq_self_eq_true _, hmem⟩, Std.HashMap.getElem?_eq_none hmem, if_pos rfl,
        Option.none_or]
  · -- another name is looked up as before
    rw [if_neg (fun h => hname (eq_of_beq h.1)), if_neg hname, Option.or_none]

/-- A name that is not known is new, whichever way it is put into the index. -/
theorem Indexes.insert {index : Std.HashMap String Nat} {key : Record → String}
    {rs : List Record} (h : Indexes index key rs) (r : Record)
    (hnew : key r ∉ index) : Indexes (index.insert (key r) rs.length) key (rs ++ [r]) := by
  intro name
  rw [← h.insertIfNew r name, Std.HashMap.getElem?_insert, Std.HashMap.getElem?_insertIfNew]
  simp only [hnew, not_false_eq_true, and_true]

/-! ## The invariant of a catalog

  What holds between the list and the two indexes after any number of records.  All look-ups are
  read off it, and nothing later opens an index. -/

/-- The catalog is what adding `rs` to the empty catalog must lead to. -/
structure Represents (c : Catalog) (rs : List Record) : Prop where
  records : c.records.toList = firstDeclared rs
  qualified : Indexes c.places Record.qualifiedName c.records.toList
  simple : Indexes c.simplePlaces Record.name c.records.toList

/-- Is the qualified name of one of the records? -/
theorem Represents.has_iff {c : Catalog} {rs : List Record} (h : c.Represents rs) (name : String) :
    c.has name = true ↔ name ∈ rs.map Record.qualifiedName := by
  rw [has, h.qualified.contains_iff, h.records, mem_names_firstDeclared]

/-- **The step**: one more record. -/
theorem Represents.insert {c : Catalog} {rs : List Record} (h : c.Represents rs) (r : Record) :
    (c.insert r).Represents (rs ++ [r]) := by
  by_cases hhas : c.has r.qualifiedName = true
  · -- dropped: neither the list nor an index has changed
    have hsame : c.insert r = c := if_pos hhas
    have hdrop : firstDeclared (rs ++ [r]) = firstDeclared rs := by
      rw [firstDeclared_snoc, if_pos ((h.has_iff _).mp hhas), List.append_nil]
    rw [hsame]
    exact ⟨h.records.trans hdrop.symm, h.qualified, h.simple⟩
  · -- kept: the new place is the length of the list, in both indexes
    have hadd : c.insert r = {
        records := c.records.push r
        places := c.places.insert r.qualifiedName c.records.size
        simplePlaces := c.simplePlaces.insertIfNew r.name c.records.size } := if_neg hhas
    have hkeep : firstDeclared (rs ++ [r]) = firstDeclared rs ++ [r] := by
      rw [firstDeclared_snoc, if_neg (fun hmem => hhas ((h.has_iff _).mpr hmem))]
    have hnew : r.qualifiedName ∉ c.places := fun hmem => hhas (Std.HashMap.contains_iff_mem.mpr hmem)
    have hqualified := h.qualified.insert r hnew
    have hsimple := h.simple.insertIfNew r
    rw [Array.length_toList] at hqualified hsimple
    rw [hadd]
    refine ⟨?_, ?_, ?_⟩
    · rw [Array.toList_push, h.records, hkeep]
    · rw [Array.toList_push]
      exact hqualified
    · rw [Array.toList_push]
      exact hsimple

theorem represents_empty : empty.Represents [] where
  records := rfl
  qualified := fun _ => Std.HashMap.getElem?_empty
  simple := fun _ => Std.HashMap.getElem?_empty

/-- **The run**: whatever is added, in whatever order. -/
theorem represents_ofList (rs : List Record) : (ofList rs).Represents rs := by
  induction rs using List.reverseRecOn with
  | nil => exact represents_empty
  | append_singleton rs r ih =>
    rw [ofList, List.foldl_append]
    exact ih.insert r

/-! ## The walk through a document

  A document is not listed first and added then: the walk goes down into a type while the catalog
  is being filled.  That the walk is blind to what it has added, and goes into a type that was
  dropped as into any other, is what makes the two the same. -/

mutual

/-- **The walk**: to add a type with all that is inside of it is to add its listing, record by record.
    It holds of every catalog that the walk may have filled so far, which is what the induction needs. -/
theorem insertTree_eq_foldl (c : Catalog) (package : String) (t : TypeDecl) :
    c.insertTree package t = (t.listing package).foldl insert c := by
  match t with
  | ⟨kind, name, qualifiedName, inner⟩ =>
    -- the record goes in first, dropped or not, and then the walk goes on with what is inside
    rw [insertTree, TypeDecl.listing, List.foldl_cons, insertTrees_eq_foldl]

/-- To add several types is to add their listings, one after the other. -/
theorem insertTrees_eq_foldl (c : Catalog) (package : String) (ts : List TypeDecl) :
    c.insertTrees package ts = (TypeDecl.listings package ts).foldl insert c := by
  match ts with
  | [] => rw [insertTrees, TypeDecl.listings, List.foldl_nil]
  | t :: ts =>
    rw [insertTrees, TypeDecl.listings, List.foldl_append, insertTree_eq_foldl,
      insertTrees_eq_foldl]

end

/-- The walk through a document adds its listing. -/
theorem ofDocument_eq_ofList (d : Document) : ofDocument d = ofList d.listing := by
  rw [ofDocument, ofList, Document.listing, List.foldl_flatMap]
  simp only [insertTrees_eq_foldl]

/-- So the catalog of a document is what adding its listing must lead to. -/
theorem represents_ofDocument (d : Document) : (ofDocument d).Represents d.listing := by
  rw [ofDocument_eq_ofList]
  exact represents_ofList d.listing

/-! ## Look-ups

  By the invariant, each is a search in the list of the records that stay. -/

theorem Represents.findQualified?_eq {c : Catalog} {rs : List Record} (h : c.Represents rs)
    (name : String) :
    c.findQualified? name = (firstDeclared rs).find? (·.qualifiedName == name) := by
  rw [findQualified?, h.qualified.bind_getElem?, h.records]

theorem Represents.findSimple?_eq {c : Catalog} {rs : List Record} (h : c.Represents rs)
    (name : String) : c.findSimple? name = (firstDeclared rs).find? (·.name == name) := by
  rw [findSimple?, h.simple.bind_getElem?, h.records]

/-- A name as such is taken for a qualified name first. -/
theorem Represents.find?_eq {c : Catalog} {rs : List Record} (h : c.Represents rs) (name : String) :
    c.find? name = ((firstDeclared rs).find? (·.qualifiedName == name)).or
      ((firstDeclared rs).find? (·.name == name)) := by
  rw [find?, h.findQualified?_eq, h.findSimple?_eq]

/-- With distinct names, the first record of a name is the only one. -/
theorem find?_eq_some_iff_of_nodup {rs : List Record}
    (h : (rs.map Record.qualifiedName).Nodup) (name : String) (r : Record) :
    rs.find? (·.qualifiedName == name) = some r ↔ r ∈ rs ∧ r.qualifiedName = name := by
  constructor
  · intro hfind
    have hname := List.find?_some hfind
    exact ⟨List.mem_of_find?_eq_some hfind, beq_iff_eq.mp hname⟩
  · rintro ⟨hmem, rfl⟩
    cases hfind : rs.find? (·.qualifiedName == r.qualifiedName) with
    | none =>
      have hno := List.find?_eq_none.mp hfind r hmem
      exact absurd (beq_self_eq_true _) hno
    -- what is found bears the same name, so it is the same record
    | some s =>
      have hs : s ∈ rs := List.mem_of_find?_eq_some hfind
      have hname := List.find?_some hfind
      rw [List.inj_on_of_nodup_map h hs hmem (beq_iff_eq.mp hname)]

/-- A record whose qualified name is taken changes nothing, wherever it comes. -/
theorem ofList_append_duplicate (rs later : List Record) (r : Record)
    (h : r.qualifiedName ∈ rs.map Record.qualifiedName) :
    ofList (rs ++ r :: later) = ofList (rs ++ later) := by
  have hhas : (ofList rs).has r.qualifiedName = true := ((represents_ofList rs).has_iff _).mpr h
  have hsame : (ofList rs).insert r = ofList rs := if_pos hhas
  rw [ofList, List.foldl_append, List.foldl_cons]
  show later.foldl insert ((ofList rs).insert r) = _
  rw [hsame, ofList, ofList, List.foldl_append]

/-- **A catalog looks up what was declared first.**  Whatever records were added:

    * it keeps, in their order, those whose qualified name did not occur earlier, so that no two
      share a qualified name;
    * both indexes lead to records;
    * a qualified name finds the one record that bears it, a simple name the first, and a name as
      such the first of these that exists;
    * a record that was dropped has left nothing behind. -/
theorem ofList_looks_up_first_declared (rs : List Record) :
    (ofList rs).records.toList = firstDeclared rs ∧
    ((firstDeclared rs).map Record.qualifiedName).Nodup ∧
    (∀ (name : String) i, (ofList rs).places[name]? = some i → i < (ofList rs).records.size) ∧
    (∀ (name : String) i, (ofList rs).simplePlaces[name]? = some i → i < (ofList rs).records.size) ∧
    (∀ name r, (ofList rs).findQualified? name = some r ↔
      r ∈ firstDeclared rs ∧ r.qualifiedName = name) ∧
    (∀ name, (ofList rs).findSimple? name = (firstDeclared rs).find? (·.name == name)) ∧
    (∀ name, (ofList rs).find? name =
      ((firstDeclared rs).find? (·.qualifiedName == name)).or
        ((firstDeclared rs).find? (·.name == name))) ∧
    (∀ r later, r.qualifiedName ∈ rs.map Record.qualifiedName →
      ofList (rs ++ r :: later) = ofList (rs ++ later)) := by
  have h := represents_ofList rs
  have hnodup := nodup_names_firstDeclared rs
  refine ⟨h.records, hnodup, fun name i hi => ?_, fun name i hi => ?_, fun name r => ?_,
    h.findSimple?_eq, fun name => ?_, fun r later => ofList_append_duplicate rs later r⟩
  · rw [← Array.length_toList]
    exact h.qualified.lt_length hi
  · rw [← Array.length_toList]
    exact h.simple.lt_length hi
  · rw [h.findQualified?_eq]
    exact find?_eq_some_iff_of_nodup hnodup name r
  · rw [find?, h.findQualified?_eq, h.findSimple?_eq]

end Catalog
end DocIndex
