/-
  THE MEMBERS THAT A LOOK-UP LISTS.

  An entry names its owner three times: by package and simple name, and inside its qualified name.
  A look-up goes by the first two.  Types that are declared inside others may share both, and then
  they share their lists of members.

  1. **Specification** — `Record.owns`: the entry's qualified name is that of the type, a dot and the
     entry's name.  `Entry.MadeFor` says that an entry was made for a type of the catalog, as all
     members of a well-made index are.

  2. **The crux** (`isMember_iff_namesake_owns`) — an entry is listed exactly if a NAMESAKE of the
     type, a type of the same package and simple name, owns it.  That the owner is one of the
     catalog's records counts: qualified names are distinct there, so no entry has two owners.

  3. **Main statement** (`lookup_lists_members_of_namesakes`) — what is listed, that nothing of the
     type itself is missing, and that nothing else is listed exactly if no other namesake owns an
     entry.  `lookup_lists_foreign_member` is a document where one does.
-/
import DocIndex.Handbook
import DocIndex.Proofs.Catalog.Lookup

namespace DocIndex

/-! ## Owners

  Who owns an entry is decided by its qualified name, since that is unique in a catalog, and the
  other two names are not. -/

/-- The type as the owner of its members. -/
def Record.owner (r : Record) : Owner := ⟨r.packageName, r.name, r.qualifiedName⟩

/-- The entry was made for a member of the type; signature and return type are free. -/
def Entry.MadeFor (e : Entry) (r : Record) : Prop :=
  e = { Entry.ofMember e.category r.owner e.name with
    signature := e.signature
    returnType := e.returnType }

instance (e : Entry) (r : Record) : Decidable (e.MadeFor r) :=
  inferInstanceAs (Decidable (_ = _))

/-- Package, simple name and qualified name are what an entry takes from the type that it is made
    for. -/
theorem Entry.madeFor_iff (e : Entry) (r : Record) :
    e.MadeFor r ↔ e.qualifiedName = r.qualifiedName ++ "." ++ e.name ∧
      e.packageName = r.packageName ∧ e.typeName = some r.name := by
  cases e
  simp [MadeFor, Entry.ofMember, Record.owner]

namespace Record

/-- Is the entry a member of the type, by its qualified name? -/
def owns (r : Record) (e : Entry) : Bool :=
  !e.category.isType && e.qualifiedName == r.qualifiedName ++ "." ++ e.name

/-- Do the types share their package and simple name? -/
def isNamesake (r o : Record) : Bool := o.packageName == r.packageName && o.name == r.name

theorem owns_iff (r : Record) (e : Entry) :
    r.owns e = true ↔
      e.category.isType = false ∧ e.qualifiedName = r.qualifiedName ++ "." ++ e.name := by
  rw [owns, Bool.and_eq_true, Bool.not_eq_true', beq_iff_eq]

theorem isNamesake_iff (r o : Record) :
    r.isNamesake o = true ↔ o.packageName = r.packageName ∧ o.name = r.name := by
  rw [isNamesake, Bool.and_eq_true, beq_iff_eq, beq_iff_eq]

theorem isNamesake_self (r : Record) : r.isNamesake r = true :=
  (isNamesake_iff r r).mpr ⟨rfl, rfl⟩

/-- Types that own the same entry have the same qualified name. -/
theorem qualifiedName_eq_of_owns {r o : Record} {e : Entry} (hr : r.owns e = true)
    (ho : o.owns e = true) : r.qualifiedName = o.qualifiedName := by
  have hname : r.qualifiedName ++ "." ++ e.name = o.qualifiedName ++ "." ++ e.name :=
    ((owns_iff r e).mp hr).2.symm.trans ((owns_iff o e).mp ho).2
  rw [String.append_left_inj, String.append_left_inj] at hname
  exact hname

end Record

/-! ## Records of a catalog

  All that is used of a catalog here, from its invariant: distinct qualified names, and that
  whatever is found is one of the records. -/

namespace Catalog

variable {c : Catalog} {rs : List Record}

/-- No two records of a catalog share their qualified name. -/
theorem Represents.nodup_qualifiedNames (h : c.Represents rs) :
    (c.records.toList.map Record.qualifiedName).Nodup := by
  rw [h.records]
  exact nodup_names_firstDeclared rs

/-- What a name finds is one of the records. -/
theorem Represents.mem_of_find? (h : c.Represents rs) {name : String} {r : Record}
    (found : c.find? name = some r) : r ∈ c.records.toList := by
  rw [h.find?_eq, Option.or_eq_some_iff] at found
  rw [h.records]
  -- found by the qualified name, or by the simple one
  rcases found with found | ⟨-, found⟩
  · exact List.mem_of_find?_eq_some found
  · exact List.mem_of_find?_eq_some found

/-- An entry has no two owners among the records. -/
theorem Represents.owner_unique (h : c.Represents rs) {r o : Record} {e : Entry}
    (hr : r ∈ c.records.toList) (ho : o ∈ c.records.toList) (hre : r.owns e = true)
    (hoe : o.owns e = true) : r = o :=
  List.inj_on_of_nodup_map h.nodup_qualifiedNames hr ho (Record.qualifiedName_eq_of_owns hre hoe)

end Catalog

/-- Every member in the index was made for a type of the catalog. -/
def Document.WellMade (d : Document) : Prop :=
  ∀ e ∈ d.index, e.category.isType = false →
    ∃ o ∈ (Catalog.ofDocument d).records.toList, e.MadeFor o

/-! ## What is listed

  Each part of the main statement is a lemma of its own, and all of them come from the crux. -/

namespace Handbook

/-- A name that finds a type is answered by the sheet of that type. -/
theorem answerLookup_of_found {h : Handbook} {name : String} {r : Record}
    (found : h.catalog.find? name = some r) :
    h.answerLookup ⟨name⟩ = .ok (sheet r (h.members r)) := by
  rw [answerLookup, found]

variable {d : Document} {r : Record}

/-- The types of the catalog that share package and simple name with `r`, itself included. -/
def namesakes (d : Document) (r : Record) : List Record :=
  (Catalog.ofDocument d).records.toList.filter r.isNamesake

/-- What a look-up goes by: package and simple name.  The qualified name of the entry is not asked
    for, and this is why namesakes are not told apart. -/
theorem isMember_iff (r : Record) (e : Entry) :
    isMember r e = true ↔ e.category.isType = false ∧ e.packageName = r.packageName ∧
      e.typeName = some r.name := by
  rw [isMember, Bool.and_eq_true, Bool.and_eq_true, Bool.not_eq_true', beq_iff_eq, beq_iff_eq,
    and_assoc]

/-- **The crux**: an entry is listed exactly if a namesake owns it. -/
theorem isMember_iff_namesake_owns (made : d.WellMade) {e : Entry} (he : e ∈ d.index) :
    isMember r e = true ↔ ∃ o ∈ namesakes d r, o.owns e = true := by
  constructor
  · -- the type that the entry was made for is the namesake
    intro hlisted
    obtain ⟨hmember, hpackage, htype⟩ := (isMember_iff r e).mp hlisted
    obtain ⟨o, ho, hmade⟩ := made e he hmember
    obtain ⟨hname, hpackage', htype'⟩ := (e.madeFor_iff o).mp hmade
    have hsame : r.isNamesake o = true :=
      (r.isNamesake_iff o).mpr
        ⟨hpackage'.symm.trans hpackage, Option.some.inj (htype'.symm.trans htype)⟩
    exact ⟨o, List.mem_filter.mpr ⟨ho, hsame⟩, (o.owns_iff e).mpr ⟨hmember, hname⟩⟩
  · rintro ⟨o, hnamesake, howns⟩
    obtain ⟨ho, hsame⟩ := List.mem_filter.mp hnamesake
    obtain ⟨hpackage, hname⟩ := (r.isNamesake_iff o).mp hsame
    have hmember := ((o.owns_iff e).mp howns).1
    -- the type that the entry was made for owns it too, so it is this namesake
    obtain ⟨o', ho', hmade⟩ := made e he hmember
    obtain ⟨hname', hpackage', htype'⟩ := (e.madeFor_iff o').mp hmade
    have howns' : o'.owns e = true := (o'.owns_iff e).mpr ⟨hmember, hname'⟩
    obtain rfl : o = o' := (Catalog.represents_ofDocument d).owner_unique ho ho' howns howns'
    exact (isMember_iff r e).mpr
      ⟨hmember, hpackage'.trans hpackage, htype'.trans (congrArg some hname)⟩

/-- What is listed for a type, in the order of the index. -/
theorem members_eq_filter_namesakes (made : d.WellMade) (r : Record) :
    (ofDocument d).members r = d.index.filter fun e => (namesakes d r).any (·.owns e) := by
  refine List.filter_congr fun e he => Bool.eq_iff_iff.mpr ?_
  rw [List.any_eq_true]
  exact isMember_iff_namesake_owns made he

theorem self_mem_namesakes (h : r ∈ (Catalog.ofDocument d).records.toList) : r ∈ namesakes d r :=
  List.mem_filter.mpr ⟨h, r.isNamesake_self⟩

/-- No member of the type is missing, and the order is that of the index. -/
theorem own_sublist_members (made : d.WellMade) (h : r ∈ (Catalog.ofDocument d).records.toList) :
    (d.index.filter r.owns).Sublist ((ofDocument d).members r) := by
  -- all that the type owns is listed, so it can as well be picked from what is listed
  have hwithin : d.index.filter r.owns = ((ofDocument d).members r).filter r.owns := by
    show _ = (d.index.filter (isMember r)).filter r.owns
    rw [List.filter_filter]
    refine List.filter_congr fun e he => ?_
    cases howns : r.owns e with
    | false => rw [Bool.false_and]
    | true =>
      have hlisted : isMember r e = true :=
        (isMember_iff_namesake_owns made he).mpr ⟨r, self_mem_namesakes h, howns⟩
      rw [hlisted, Bool.and_self]
  rw [hwithin]
  exact List.filter_sublist

/-- Nothing but members of the type is listed exactly if no other namesake owns an entry. -/
theorem members_eq_own_iff (made : d.WellMade) (h : r ∈ (Catalog.ofDocument d).records.toList) :
    (ofDocument d).members r = d.index.filter r.owns ↔
      ∀ o ∈ namesakes d r, o ≠ r → ∀ e ∈ d.index, o.owns e = false := by
  constructor
  · -- an entry of another namesake is listed, and then the type itself would own it
    intro hexact o hnamesake hother e he
    refine Bool.eq_false_iff.mpr fun howns => hother ?_
    have hlisted : e ∈ (ofDocument d).members r :=
      List.mem_filter.mpr ⟨he, (isMember_iff_namesake_owns made he).mpr ⟨o, hnamesake, howns⟩⟩
    rw [hexact] at hlisted
    exact (Catalog.represents_ofDocument d).owner_unique (List.mem_filter.mp hnamesake).1 h howns
      (List.mem_filter.mp hlisted).2
  · -- only the type itself can be the namesake that owns a listed entry
    intro hno
    refine List.filter_congr fun e he => Bool.eq_iff_iff.mpr ?_
    rw [isMember_iff_namesake_owns made he]
    constructor
    · rintro ⟨o, hnamesake, howns⟩
      by_cases hself : o = r
      · rw [← hself]
        exact howns
      · rw [hno o hnamesake hself e he] at howns
        cases howns
    · exact fun howns => ⟨r, self_mem_namesakes h, howns⟩

/-- **A look-up lists the members of all namesakes.**  In a document whose members were made for
    types of the catalog, a name that finds a type is answered by the sheet of that type with, in the
    order of the index, the entries that it or a namesake owns.  Its own members are always among
    them; there are no others exactly if no other namesake owns an entry. -/
theorem lookup_lists_members_of_namesakes (d : Document) (made : d.WellMade) (name : String)
    (r : Record) (found : (Catalog.ofDocument d).find? name = some r) :
    (ofDocument d).answerLookup ⟨name⟩ = .ok (sheet r ((ofDocument d).members r)) ∧
    (ofDocument d).members r =
      d.index.filter (fun e => (namesakes d r).any (·.owns e)) ∧
    (d.index.filter r.owns).Sublist ((ofDocument d).members r) ∧
    ((ofDocument d).members r = d.index.filter r.owns ↔
      ∀ o ∈ namesakes d r, o ≠ r → ∀ e ∈ d.index, o.owns e = false) := by
  have hmem : r ∈ (Catalog.ofDocument d).records.toList :=
    (Catalog.represents_ofDocument d).mem_of_find? found
  exact ⟨answerLookup_of_found found, members_eq_filter_namesakes made r,
    own_sublist_members made hmem, members_eq_own_iff made hmem⟩

/-! ## Two types of one name

  The smallest document in which a look-up lists what the type does not declare. -/

/-- Two types of one package, each with a type `Node` inside and a member in it. -/
def twoNodes : Document where
  packages := [⟨"p", [
    ⟨.classType, "A", "p.A", [⟨.classType, "Node", "p.A.Node", []⟩]⟩,
    ⟨.classType, "B", "p.B", [⟨.classType, "Node", "p.B.Node", []⟩]⟩]⟩]
  index := [.ofMember .method ⟨"p", "Node", "p.A.Node"⟩ "insert",
    .ofMember .field ⟨"p", "Node", "p.B.Node"⟩ "left"]

/-- The `Node` inside of `B`. -/
def nodeOfB : Record := ⟨"p.B.Node", "Node", "p", .classType⟩

/-- The four types of the document, by its listing; the hash indexes need not be run. -/
theorem records_twoNodes : (Catalog.ofDocument twoNodes).records.toList =
    [⟨"p.A", "A", "p", .classType⟩, ⟨"p.A.Node", "Node", "p", .classType⟩,
      ⟨"p.B", "B", "p", .classType⟩, nodeOfB] :=
  (Catalog.represents_ofDocument _).records.trans (by decide)

theorem wellMade_twoNodes : twoNodes.WellMade := by
  rw [Document.WellMade, records_twoNodes]
  decide

theorem find?_nodeOfB : (Catalog.ofDocument twoNodes).find? "p.B.Node" = some nodeOfB :=
  ((Catalog.represents_ofDocument _).find?_eq _).trans (by decide)

/-- The look-up of the `Node` of `B`, with what it lists. -/
theorem lookup_lists_both_nodes :
    twoNodes.WellMade ∧ (Catalog.ofDocument twoNodes).find? "p.B.Node" = some nodeOfB ∧
    (ofDocument twoNodes).answerLookup ⟨"p.B.Node"⟩ =
      .ok (sheet nodeOfB ((ofDocument twoNodes).members nodeOfB)) ∧
    (ofDocument twoNodes).members nodeOfB = twoNodes.index := by
  obtain ⟨hanswer, hlisted, -, -⟩ :=
    lookup_lists_members_of_namesakes twoNodes wellMade_twoNodes "p.B.Node" nodeOfB find?_nodeOfB
  refine ⟨wellMade_twoNodes, find?_nodeOfB, hanswer, hlisted.trans ?_⟩
  rw [namesakes, records_twoNodes]
  decide

/-- All members of `twoNodes` were made for types of its catalog, and yet the look-up of the `Node` of
    `B` lists a method of the `Node` of `A`. -/
theorem lookup_lists_foreign_member :
    twoNodes.WellMade ∧ (Catalog.ofDocument twoNodes).find? "p.B.Node" = some nodeOfB ∧
    (ofDocument twoNodes).answerLookup ⟨"p.B.Node"⟩ =
      .ok "class p.B.Node\n  package: p\n  link: #p.B.Node\n\nMembers\n  [M] insert\n  [F] left\n" ∧
    (ofDocument twoNodes).members nodeOfB ≠ twoNodes.index.filter nodeOfB.owns := by
  refine ⟨wellMade_twoNodes, find?_nodeOfB, ?_, by decide⟩
  rw [answerLookup_of_found find?_nodeOfB]
  decide

end Handbook
end DocIndex
