/-
  THE INDEX OF A DOCUMENT, READ BACK.

  Packages and types are read straight from the text, but an entry of the index goes through a value,
  and a value that was read keeps the members of an object in the order of their keys.  So an entry is
  made from its members in another order than the one in which they were written.

  1. **The members by key** (`asRead_toJson`) — the order in which a value keeps the members of an entry,
     with or without the three that may be left out.

  2. **One entry** (`ofJson_asRead`) — every field is filled from its member, and a member that was left
     out stays absent.

  3. **The index** (`entries_asRead`) — all entries come back in their order, and none is set aside: the
     name of a category is a name that is known.
-/
import DocIndex.Document.Reader
import DocIndex.Proofs.Json.Reading

namespace DocIndex

open Json

/-! ## Names

  Categories and kinds of types are written as names.  Both lists are short, and every case is a
  computation. -/

/-- The name of a category is read as the category. -/
theorem Category.nameAmong_known (c : Category) : nameAmong known c.name = .ok c := by
  rcases c with (_ | _ | _ | _) | _ | _ <;> rfl

/-- It is also found by the look that decides what is set aside, which goes by another table. -/
theorem Category.ofName?_name (c : Category) : ofName? c.name = some c := by
  rcases c with (_ | _ | _ | _) | _ | _ <;> rfl

theorem TypeKind.nameAmong_known (k : TypeKind) : nameAmong known k.name = .ok k := by
  cases k <;> rfl

/-! ## One entry

  An entry is written in one order and made again in another.  Filling a field does not depend on
  what was filled before, but a draft is a record, so the order is followed through once for all. -/

namespace Entry

/-- The members of an entry in ascending order of their keys. -/
def membersByKey (e : Entry) : List (String × Json) :=
  [("category", .string e.category.name), ("name", .string e.name),
    ("packageName", .string e.packageName), ("qualifiedName", .string e.qualifiedName)] ++
  optional "returnType" e.returnType ++ optional "signature" e.signature ++
  optional "typeName" e.typeName

/-- **The members by key**: eight cases, for the three members that may be left out.  In each of
    them the keys are literals, and sorting them is a computation. -/
theorem asRead_toJson (e : Entry) : e.toJson.asRead = .object e.membersByKey := by
  obtain ⟨category, name, qualifiedName, signature, packageName, typeName, returnType⟩ := e
  cases signature <;> cases typeName <;> cases returnType <;>
    simp only [toJson, membersByKey, optional, List.append_nil, List.cons_append, List.nil_append,
      asRead, asReadMembers, asReadMember, gathered, List.foldl_cons, List.foldl_nil, Json.insert,
      String.reduceLT, String.reduceEq, ↓reduceIte]

/-- The draft of an entry with all its fields. -/
def draft (e : Entry) : Draft where
  category := some e.category
  name := some e.name
  qualifiedName := some e.qualifiedName
  signature := e.signature
  packageName := some e.packageName
  typeName := e.typeName
  returnType := e.returnType

/-- Every field is filled from its member. -/
theorem foldlM_fill_membersByKey (e : Entry) :
    e.membersByKey.foldlM Draft.fill {} = .ok e.draft := by
  obtain ⟨category, name, qualifiedName, signature, packageName, typeName, returnType⟩ := e
  have hcategory : toChoice Category.known (.string category.name) = .ok category :=
    category.nameAmong_known
  cases signature <;> cases typeName <;> cases returnType <;>
    simp [membersByKey, optional, Draft.fill, hcategory, toText, toText?, bind, Except.bind, pure,
      Except.pure, Except.map, draft]

/-- An entry is made again from what was read of it. -/
theorem ofJson_asRead (e : Entry) : ofJson e.toJson.asRead = .ok e := by
  have hfill : e.membersByKey.foldlM form.fill form.blank = .ok e.draft :=
    foldlM_fill_membersByKey e
  rw [asRead_toJson, ofJson, Form.read, hfill]
  rfl

theorem shallow_of_mem_optional {depth : Nat} {key : String} {text : Option String} :
    ∀ m ∈ optional key text, Shallow depth m.2 := by
  cases text with
  | none => exact List.forall_mem_nil _
  | some s => exact List.forall_mem_singleton.mpr trivial

/-- An entry is one bracket deep. -/
theorem shallow_toJson {depth : Nat} (h : 0 < depth) (e : Entry) : Shallow depth e.toJson := by
  refine ⟨h, shallowMembers_iff.mpr ?_⟩
  simp only [List.forall_mem_append, List.forall_mem_cons]
  refine ⟨⟨⟨⟨⟨trivial, trivial, trivial, ?_⟩, shallow_of_mem_optional⟩, trivial, ?_⟩,
    shallow_of_mem_optional⟩, shallow_of_mem_optional⟩
  · exact List.forall_mem_nil _
  · exact List.forall_mem_nil _

end Entry

/-! ## All entries

  The look at the category and the making of the entry go hand in hand along the list. -/

namespace Document

/-- An entry that was written is never set aside. -/
theorem unlisted?_asRead (e : Entry) : unlisted? e.toJson.asRead = none := by
  have hcategory : (e.toJson.asRead.get? "category").bind Json.string? = some e.category.name := by
    rw [Entry.asRead_toJson]
    rfl
  simp [unlisted?, hcategory, Category.ofName?_name]

/-- All entries come back, and none is set aside. -/
theorem entries_asRead (es : List Entry) :
    entries (es.map fun e => e.toJson.asRead) = .ok (es, []) := by
  induction es with
  | nil => rfl
  | cons e es ih =>
    rw [List.map_cons, entries, unlisted?_asRead]
    simp only [bind, Except.bind, Entry.ofJson_asRead, ih]
    rfl

end Document
end DocIndex
