/-
  MEMBERS THAT NOBODY ASKED FOR, in the text of a document.

  A generator may put more into a document than is read of it: comments, modifiers, versions of its own.
  Packages and types are read straight from the text, and what is no field of theirs is passed over; so
  the document comes out the same, whatever was added and wherever.  Added values may look like the
  fields of a document themselves, or be no values that could be kept.

  1. **Texts** (`Document.extendedTexts`) — all layouts of the text of a document, with members added to
     the document itself, to its packages and to its types at every level.  The texts to which nothing
     was added are among them (`Document.within_extended`).

  2. **Fields** — for every field of a type, a package and a document, what the draft holds after the
     text of the field was read.

  3. **Types** (`reads_type`) — one induction over a type and the types inside it.  A type opens a bracket
     and the list of its inner types another, so `depth` brackets are enough for half as many levels:
     with the three brackets around the types of a package, 127 brackets are enough for 62 levels.  The
     brackets of what is passed over do not count.

  4. **Main statement** (`parse_extended_text`).

  The induction over types is on the type and not on its text.  Which members were added is hidden in
  the kind of text (`ExtendedObject`), and the reader of a record does not see them
  (`reads_extended`).  So the proofs for types, packages and the document are those of a plain round
  trip.
-/
import DocIndex.Proofs.Document.Index
import DocIndex.Proofs.Json.Passing

namespace DocIndex

open Json

/-! ## Texts

  Described by kinds of texts, as all layouts are: for each object its fields in their order, and
  anything that is no field in between.  The same holds of every level, so the description is
  recursive like the types. -/

namespace TypeDecl

mutual

/-- How many levels of types there are in a type, itself included. -/
def levels : TypeDecl → Nat
  | ⟨_, _, _, inner⟩ => levelsAll inner + 1

/-- How many levels there are in several types. -/
def levelsAll : List TypeDecl → Nat
  | [] => 0
  | t :: ts => max (levels t) (levelsAll ts)

end

mutual

/-- The texts of a type with extra members, in the type and in the types inside it. -/
def extendedTexts : TypeDecl → Texts
  | ⟨kind, name, qualifiedName, inner⟩ =>
    ExtendedObject ["kind", "name", "qualifiedName", "innerTypes"] <|
      [Member "kind" (· = writeString kind.name), Member "name" (· = writeString name),
        Member "qualifiedName" (· = writeString qualifiedName)] ++
      (match inner with
        | [] => []
        | t :: ts => [Member "innerTypes" (Enclosed '[' ']' (extendedItems (t :: ts)))])

/-- The kinds of texts of several types with extra members. -/
def extendedItems : List TypeDecl → List Texts
  | [] => []
  | t :: ts => extendedTexts t :: extendedItems ts

end

end TypeDecl

/-- The texts of a package with extra members. -/
def Package.extendedTexts (p : Package) : Texts :=
  ExtendedObject ["name", "types"]
    [Member "name" (· = writeString p.name),
      Member "types" (Enclosed '[' ']' (TypeDecl.extendedItems p.types))]

/-- The texts of a document with extra members.  Nothing is added to the entries of the index. -/
def Document.extendedTexts (d : Document) : Texts :=
  ExtendedObject ["packages", "searchIndex"]
    [Member "packages" (Enclosed '[' ']' (d.packages.map Package.extendedTexts)),
      Member "searchIndex" (Spells (.list (d.index.map Entry.toJson)))]

/-! ### Nothing added

  To add nothing is a way of adding, and so the texts of the document itself need no proofs of
  their own. -/

namespace TypeDecl

mutual

/-- The texts of a type are among those with extra members, at every level. -/
theorem within_extended (t : TypeDecl) : Within (Spells t.toJson) t.extendedTexts := by
  intro text h
  match t with
  | ⟨kind, name, qualifiedName, []⟩ =>
    rw [TypeDecl.extendedTexts]
    exact ⟨_, extended_self _ _, h⟩
  | ⟨kind, name, qualifiedName, t :: ts⟩ =>
    rw [TypeDecl.extendedTexts]
    -- each of the inner types is a text with extra members, so their list is
    have hinner : Within (Enclosed '[' ']' (itemTexts (toJsons (t :: ts))))
        (Enclosed '[' ']' (extendedItems (t :: ts))) :=
      within_enclosed (forall₂_within_extended (t :: ts))
    refine ⟨_, extended_self _ _, within_enclosed ?_ text h⟩
    exact .cons (.refl _) (.cons (.refl _) (.cons (.refl _) (.cons (within_member _ hinner) .nil)))

/-- The same for each type of a list. -/
theorem forall₂_within_extended (ts : List TypeDecl) :
    List.Forall₂ Within (itemTexts (toJsons ts)) (extendedItems ts) := by
  match ts with
  | [] => exact .nil
  | t :: ts => exact .cons (within_extended t) (forall₂_within_extended ts)

end

end TypeDecl

theorem Package.within_extended (p : Package) : Within (Spells p.toJson) p.extendedTexts := by
  intro text h
  have htypes : Within (Enclosed '[' ']' (itemTexts (TypeDecl.toJsons p.types)))
      (Enclosed '[' ']' (TypeDecl.extendedItems p.types)) :=
    within_enclosed (TypeDecl.forall₂_within_extended p.types)
  refine ⟨_, extended_self _ _, within_enclosed ?_ text h⟩
  exact .cons (.refl _) (.cons (within_member _ htypes) .nil)

/-- The texts of a document are among those with extra members. -/
theorem Document.within_extended (d : Document) : Within (Spells d.toJson) d.extendedTexts := by
  intro text h
  have hpackages : List.Forall₂ Within (itemTexts (d.packages.map Package.toJson))
      (d.packages.map Package.extendedTexts) := by
    induction d.packages with
    | nil => exact .nil
    | cons p ps ih => exact .cons p.within_extended ih
  refine ⟨_, extended_self _ _, within_enclosed ?_ text h⟩
  exact .cons (within_member _ (within_enclosed hpackages)) (.cons (.refl _) .nil)

namespace Document

variable {rounds : Nat}

/-! ## Types

  For every field a lemma: its member fills it, if it was not filled before.  The lemmas are put one
  behind the other in the order in which the members stand in the text. -/

section Fields

variable {nested : Bool} {inner : List Char → Except Fault (After (List TypeDecl))}
  {d last : TypeDraft} {Ts : List Texts}

/-- The kind of a type, wherever its member stands among the others. -/
theorem gathers_kind {kind : TypeKind} (hnew : d.kind.isSome = false)
    (more : Gathers rounds ((typeLayout nested inner).member rounds)
      { d with kind := some kind } Ts last) :
    Gathers rounds ((typeLayout nested inner).member rounds) d
      (Member "kind" (· = writeString kind.name) :: Ts) last :=
  .field rfl hnew ((reads_choice kind.nameAmong_known nested).andThen fun _ => rfl) more

theorem gathers_typeName {name : String} (hnew : d.name.isSome = false)
    (more : Gathers rounds ((typeLayout nested inner).member rounds)
      { d with name := some name } Ts last) :
    Gathers rounds ((typeLayout nested inner).member rounds) d
      (Member "name" (· = writeString name) :: Ts) last :=
  .field rfl hnew ((reads_text name).andThen fun _ => rfl) more

theorem gathers_qualifiedName {name : String} (hnew : d.qualifiedName.isSome = false)
    (more : Gathers rounds ((typeLayout nested inner).member rounds)
      { d with qualifiedName := some name } Ts last) :
    Gathers rounds ((typeLayout nested inner).member rounds) d
      (Member "qualifiedName" (· = writeString name) :: Ts) last :=
  .field rfl hnew ((reads_text name).andThen fun _ => rfl) more

/-- The types inside, read by whatever reader the layout has for them. -/
theorem gathers_innerTypes {T : Texts} {ts : List TypeDecl} (hnew : d.inner.isSome = false)
    (reads : Reads rounds inner T ts)
    (more : Gathers rounds ((typeLayout nested inner).member rounds)
      { d with inner := some ts } Ts last) :
    Gathers rounds ((typeLayout nested inner).member rounds) d (Member "innerTypes" T :: Ts) last :=
  .field rfl hnew (reads.andThen fun _ => rfl) more

end Fields

/-- A list of types, if there is a bracket for it. -/
theorem reads_types {depth : Nat} {ts : List TypeDecl}
    (h : List.Forall₂ (Reads rounds (readType rounds depth)) (TypeDecl.extendedItems ts) ts) :
    Reads rounds (readTypes rounds (depth + 1)) (Enclosed '[' ']' (TypeDecl.extendedItems ts)) ts :=
  reads_listOf h

/-- A type opens a bracket, and the list of its inner types is read like any list of types. -/
theorem readType_succ (depth : Nat) : readType rounds (depth + 1) =
    record "TypeInfo" rounds (some (typeLayout (0 < depth) (readTypes rounds depth))) := by
  cases depth <;> rfl

/-- A type without types inside: the member is left out, and the draft is closed with an empty
    list. -/
theorem reads_leaf {depth : Nat} (kind : TypeKind) (name qualifiedName : String) :
    Reads rounds (readType rounds (depth + 1))
      (TypeDecl.extendedTexts ⟨kind, name, qualifiedName, []⟩) ⟨kind, name, qualifiedName, []⟩ := by
  rw [TypeDecl.extendedTexts, readType_succ]
  refine reads_extended "TypeInfo" ⟨some kind, some name, some qualifiedName, none⟩ ?_ rfl
  exact gathers_kind rfl (gathers_typeName rfl (gathers_qualifiedName rfl .nil))

/-- A type with types inside, if these are read with two brackets fewer. -/
theorem reads_outer {depth : Nat} (kind : TypeKind) (name qualifiedName : String) {t : TypeDecl}
    {ts : List TypeDecl}
    (h : List.Forall₂ (Reads rounds (readType rounds depth)) (TypeDecl.extendedItems (t :: ts))
      (t :: ts)) :
    Reads rounds (readType rounds (depth + 2))
      (TypeDecl.extendedTexts ⟨kind, name, qualifiedName, t :: ts⟩)
      ⟨kind, name, qualifiedName, t :: ts⟩ := by
  rw [TypeDecl.extendedTexts, readType_succ]
  refine reads_extended "TypeInfo" ⟨some kind, some name, some qualifiedName, some (t :: ts)⟩ ?_ rfl
  exact gathers_kind rfl (gathers_typeName rfl (gathers_qualifiedName rfl
    (gathers_innerTypes rfl (reads_types h) .nil)))

mutual

/-- **A type** is read from its texts: it takes two brackets for every level but the last. -/
theorem reads_type {depth : Nat} (t : TypeDecl) (h : 2 * t.levels ≤ depth + 1) :
    Reads rounds (readType rounds depth) t.extendedTexts t := by
  match t with
  | ⟨kind, name, qualifiedName, []⟩ =>
    rw [TypeDecl.levels] at h
    -- one bracket for the type itself
    obtain ⟨depth, rfl⟩ : ∃ k, depth = k + 1 := ⟨depth - 1, by omega⟩
    exact reads_leaf kind name qualifiedName
  | ⟨kind, name, qualifiedName, t :: ts⟩ =>
    -- there is a level below, which leaves two brackets to take
    have hlevel : 1 ≤ TypeDecl.levelsAll (t :: ts) := by
      obtain ⟨_, _, _, _⟩ := t
      rw [TypeDecl.levelsAll, TypeDecl.levels]
      omega
    rw [TypeDecl.levels] at h
    obtain ⟨depth, rfl⟩ : ∃ k, depth = k + 2 := ⟨depth - 2, by omega⟩
    exact reads_outer kind name qualifiedName (forall₂_reads_type (t :: ts) (by omega))

/-- The same for each type of a list. -/
theorem forall₂_reads_type {depth : Nat} (ts : List TypeDecl)
    (h : 2 * TypeDecl.levelsAll ts ≤ depth + 1) :
    List.Forall₂ (Reads rounds (readType rounds depth)) (TypeDecl.extendedItems ts) ts := by
  match ts with
  | [] => exact .nil
  | t :: ts =>
    rw [TypeDecl.levelsAll] at h
    exact .cons (reads_type t (by omega)) (forall₂_reads_type ts (by omega))

end

/-! ## Packages

  A package is an object around a list of types. -/

/-- A package is read from its texts, with two brackets for every level of its types. -/
theorem reads_package {depth : Nat} (p : Package)
    (h : 2 * TypeDecl.levelsAll p.types ≤ depth + 1) :
    Reads rounds (record "PackageInfo" rounds (some (packageLayout rounds (depth + 1))))
      p.extendedTexts p := by
  have hname : Reads rounds ((packageLayout rounds (depth + 1)).fill {} "name")
      (· = writeString p.name) { name := some p.name } :=
    (reads_text p.name).andThen fun _ => rfl
  have htypes : Reads rounds ((packageLayout rounds (depth + 1)).fill { name := some p.name } "types")
      (Enclosed '[' ']' (TypeDecl.extendedItems p.types)) ⟨some p.name, some p.types⟩ :=
    (reads_types (forall₂_reads_type p.types h)).andThen fun _ => rfl
  exact reads_extended "PackageInfo" ⟨some p.name, some p.types⟩
    (.field rfl rfl hname (.field rfl rfl htypes .nil)) rfl

theorem forall₂_reads_package {depth : Nat} {ps : List Package}
    (h : ∀ p ∈ ps, 2 * TypeDecl.levelsAll p.types ≤ depth + 1) :
    List.Forall₂ (Reads rounds (record "PackageInfo" rounds (some (packageLayout rounds (depth + 1)))))
      (ps.map Package.extendedTexts) ps := by
  induction ps with
  | nil => exact .nil
  | cons p ps ih =>
    exact .cons (reads_package p (h p List.mem_cons_self))
      (ih fun q hq => h q (List.mem_cons_of_mem p hq))

/-! ## The document

  Its packages are read from the text and its index as values; the two members meet in one draft. -/

/-- The index is read as values.  Nothing is passed over there: a value keeps all its members. -/
theorem reads_index {depth : Nat} (h : 0 < depth) (es : List Entry) :
    Reads rounds (listOf rounds (some (value rounds depth)))
      (Spells (.list (es.map Entry.toJson))) (es.map fun e => e.toJson.asRead) := by
  -- an entry has no lists and no objects in it
  have hshallow : ShallowItems depth (es.map Entry.toJson) := by
    rw [shallowItems_iff]
    intro v hv
    obtain ⟨e, -, rfl⟩ := List.mem_map.mp hv
    exact Entry.shallow_toJson h e
  have hread : List.Forall₂ (Reads rounds (value rounds depth)) _ _ :=
    forall₂_reads_value _ hshallow
  rw [asReadItems_eq_map, List.map_map] at hread
  exact reads_listOf hread

/-- A document is read from its texts, whatever was added. -/
theorem reads_extendedDocument (d : Document)
    (h : ∀ p ∈ d.packages, TypeDecl.levelsAll p.types ≤ 62) :
    Reads rounds
      (record "DocumentationModel" rounds (some (layout rounds (nestingLimit - 1))))
      d.extendedTexts ⟨d, []⟩ := by
  -- of 127 brackets the document, its list of packages, the package and the list of its types take
  -- four
  have hlevels : ∀ p ∈ d.packages, 2 * TypeDecl.levelsAll p.types ≤ 123 + 1 := by
    intro p hp
    have hlevel := h p hp
    omega
  have hpackages : Reads rounds ((layout rounds (nestingLimit - 1)).fill {} "packages")
      (Enclosed '[' ']' (d.packages.map Package.extendedTexts)) { packages := some d.packages } :=
    (reads_listOf (forall₂_reads_package hlevels)).andThen fun _ => rfl
  have hindex : Reads rounds
      ((layout rounds (nestingLimit - 1)).fill { packages := some d.packages } "searchIndex")
      (Spells (.list (d.index.map Entry.toJson))) ⟨some d.packages, some (d.index, [])⟩ := by
    refine (reads_index (by decide) d.index).andThen fun rest => ?_
    simp only [bind, Except.bind, entries_asRead]
    rfl
  exact reads_extended "DocumentationModel" ⟨some d.packages, some (d.index, [])⟩
    (.field rfl rfl hpackages (.field rfl rfl hindex .nil)) rfl

/-- **Extra members do not matter.**  For every document whose types nest at most 62 levels deep: each
    text of the document, with any number of members added anywhere to the document, to its packages and
    to its types, is read as the document, and no entry of its index is set aside.  The key of an added
    member is any string that does not stand for a field of the object; its value is any text of JSON,
    of whatever depth.  The texts of the document itself are among these. -/
theorem parse_extended_text (d : Document)
    (h : ∀ p ∈ d.packages, TypeDecl.levelsAll p.types ≤ 62) :
    (∀ text : String, d.extendedTexts text.toList → parse text = .ok ⟨d, []⟩) ∧
    (∀ text : String, Spells d.toJson text.toList → d.extendedTexts text.toList) := by
  constructor
  · intro text htext
    exact (reads_extendedDocument d h).finish htext
  · intro text htext
    exact d.within_extended text.toList htext

/-- A class in a package. -/
def lonelyClass : Document where
  packages := [⟨"p", [⟨.classType, "A", "p.A", []⟩]⟩]
  index := []

/-- Its text with a number beyond every double in the document, a member of the package under the name
    of a field of the document, and a member of the class that holds what looks like types. -/
def annotatedText : String :=
  "\x7b\"v\":1e999,\"packages\":[\x7b\"name\":\"p\",\"packages\":null," ++
  "\"types\":[\x7b\"kind\":\"class\",\"d\\u006fc\":\x7b\"types\":[[]]\x7d,\"name\":\"A\"," ++
  "\"qualifiedName\":\"p.A\"\x7d]\x7d],\"searchIndex\":[]\x7d"

/-- The text is one of those with extra members.  The proof is the text taken apart by the grammar,
    from the inside out. -/
theorem annotatedText_extended : lonelyClass.extendedTexts annotatedText.toList := by
  have comma : Separates false [','] := .comma gap_nil gap_nil
  -- the three added members
  have hnumber : NumberText ['1', 'e', '9', '9', '9'] := by
    have hwhole : AllDigits [] := List.forall_mem_nil _
    have hexponent : AllDigits ['9', '9', '9'] := List.all_eq_true.mp (by decide)
    exact .mk (.inl rfl) (.digits (by decide) (by decide) hwhole) .none
      (.digits (.inl rfl) (.inl rfl) hexponent)
  have hversion : Extra ["packages", "searchIndex"] _ :=
    .mk (decodes_plain ['v'] (by decide)) (by decide) gap_nil gap_nil (.number hnumber)
  have hnull : Extra ["name", "types"] _ :=
    .mk (decodes_plain "packages".toList (by decide)) (by decide) gap_nil gap_nil .null
  have hletter : HexUnit ['0', '0', '6', 'f'] 0x6f :=
    .mk (w := 0) (x := 0) (y := 6) (z := 15) (.inl rfl) (.inl rfl) (.inl rfl) (.inl rfl)
  have hkey : Decodes _ ['d', 'o', 'c'] :=
    .plain (by decide) (by decide) (by decide)
      (.unit hletter (.inl (by decide)) (decodes_plain ['c'] (by decide)))
  have hcomment : Extra ["kind", "name", "qualifiedName", "innerTypes"] _ :=
    .mk hkey (by decide) gap_nil gap_nil (.filled (.last
      (.member gap_nil (decodes_plain "types".toList (by decide)).content gap_nil) gap_nil
      (.filled (.last .element gap_nil (.empty .list gap_nil) gap_nil)) gap_nil))
  -- the class, the package and the document around them
  have hclass : TypeDecl.extendedTexts ⟨.classType, "A", "p.A", []⟩ _ :=
    ⟨_, .kept _ (.added (.kept _ (.kept _ .nil))),
      .mk (.cons (.start gap_nil) (.mk gap_nil gap_nil rfl) (.cons comma hcomment
        (.cons comma (.mk gap_nil gap_nil rfl) (.cons comma (.mk gap_nil gap_nil rfl)
          (.nil gap_nil)))))⟩
  have hpackage : Package.extendedTexts ⟨"p", [⟨.classType, "A", "p.A", []⟩]⟩ _ :=
    ⟨_, .kept _ (.added (.kept _ .nil)),
      .mk (.cons (.start gap_nil) (.mk gap_nil gap_nil rfl) (.cons comma hnull
        (.cons comma (.mk gap_nil gap_nil (.mk (.cons (.start gap_nil) hclass (.nil gap_nil))))
          (.nil gap_nil))))⟩
  have hdocument : lonelyClass.extendedTexts _ :=
    ⟨_, .added (.kept _ (.kept _ .nil)),
      .mk (.cons (.start gap_nil) hversion
        (.cons comma (.mk gap_nil gap_nil (.mk (.cons (.start gap_nil) hpackage (.nil gap_nil))))
          (.cons comma (.mk gap_nil gap_nil (.mk (.nil gap_nil))) (.nil gap_nil))))⟩
  refine Eq.mpr (congrArg lonelyClass.extendedTexts ?_) hdocument
  decide +kernel

/-- It is read as the class alone. -/
theorem parse_annotatedText :
    (∀ p ∈ lonelyClass.packages, TypeDecl.levelsAll p.types ≤ 62) ∧
    parse annotatedText = .ok ⟨lonelyClass, []⟩ := by
  have hlevels : ∀ p ∈ lonelyClass.packages, TypeDecl.levelsAll p.types ≤ 62 := by decide
  exact ⟨hlevels, (parse_extended_text lonelyClass hlevels).1 annotatedText annotatedText_extended⟩

end Document
end DocIndex
