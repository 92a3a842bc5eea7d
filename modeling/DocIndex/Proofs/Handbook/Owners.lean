/-
  THE OWNER OF A MEMBER.

  Three answers tell which type declares a member: the destination that its result leads to, the context
  in its row, and the look-up that lists it.  An entry may leave the name of its owner out.  The
  destination then falls back on the qualified name; the row shows no owner, and no look-up lists the
  entry.

  1. **Specification** — `OwnerAgreed`: the row shows the owner that the destination names, and the
     look-ups that list the entry are those of the types that the destination names.

  2. **One lemma per answer** — `Destination.ofEntry_member`, `Row.context_member` and
     `mem_members_iff` say what each of them takes from the entry.

  3. **Main statement** (`owners_agree_iff_named`) — the answers agree exactly if the entry names its
     owner, or there is nothing to fall back on and no type to list it under.
     `fallback_owner_unlisted` is a document where they disagree.
-/
import DocIndex.Destination
import DocIndex.Proofs.Handbook.Members

namespace DocIndex

/-! ## What each answer takes from the entry

  The three answers read the same entry, and they differ in what they do where the name of the
  owner is missing. -/

/-- The destination of a member has its package, and its owner with the fallback. -/
theorem Destination.ofEntry_member {e : Entry} (member : e.category.isType = false) :
    ofEntry e = .member e.category e.packageName (e.typeName.getD (partBeforeLast e.qualifiedName))
      e.name e.qualifiedName := by
  rw [ofEntry]
  cases h : e.category with
  -- a type is no member
  | type kind =>
    rw [h] at member
    cases member
  | method => rfl
  | field => rfl

namespace Row

/-- The context in a row has no fallback for the owner. -/
theorem context_member {e : Entry} (member : e.category.isType = false) :
    (ofEntry e).context = memberContext e (e.typeName.getD "") := by
  show contextOf e = _
  rw [contextOf, if_neg (Bool.not_eq_true _ ▸ member)]

/-- Two contexts of one entry differ if the owners in them do: a row that shows the wrong owner
    does not look like one that shows the right one. -/
theorem memberContext_inj (e : Entry) {owner other : String} :
    memberContext e owner = memberContext e other ↔ owner = other := by
  rw [memberContext, memberContext, String.append_left_inj, String.append_right_inj]

end Row

namespace Handbook

variable {d : Document} {e : Entry}

/-- An entry is listed under the types whose package and simple name it gives.  It has to give them
    itself; there is no fallback. -/
theorem mem_members_iff (indexed : e ∈ d.index) (member : e.category.isType = false) (r : Record) :
    e ∈ (ofDocument d).members r ↔ e.packageName = r.packageName ∧ e.typeName = some r.name := by
  have hlisted : e ∈ (ofDocument d).members r ↔ e ∈ d.index ∧ isMember r e = true :=
    List.mem_filter
  rw [hlisted, isMember_iff]
  exact ⟨fun h => h.2.2, fun h => ⟨indexed, member, h⟩⟩

/-! ## Agreement

  The two cases, an entry that names its owner and one that does not, have nothing in common and
  are lemmas of their own. -/

/-- What the answers of a handbook tell of the owner of a member is the same. -/
structure OwnerAgreed (d : Document) (e : Entry) : Prop where
  /-- The row shows the owner. -/
  shown : (Row.ofEntry e).context = Row.memberContext e (Destination.ofEntry e).typeName
  /-- The look-ups that list the entry are those of the owner. -/
  listed : ∀ (name : String) (r : Record), (Catalog.ofDocument d).find? name = some r →
    (e ∈ (ofDocument d).members r ↔
      r.packageName = (Destination.ofEntry e).packageName ∧
        r.name = (Destination.ofEntry e).typeName)

/-- An entry that names its owner leaves nothing to a fallback. -/
theorem ownerAgreed_of_named (indexed : e ∈ d.index) (member : e.category.isType = false)
    {owner : String} (named : e.typeName = some owner) : OwnerAgreed d e where
  shown := by
    rw [Destination.ofEntry_member member, Row.context_member member, named]
    rfl
  listed := by
    intro name r _
    rw [mem_members_iff indexed member, Destination.ofEntry_member member, named,
      Option.some.injEq]
    exact and_congr eq_comm eq_comm

/-- Without a name the row shows no owner. -/
theorem shown_iff_of_unnamed (member : e.category.isType = false) (unnamed : e.typeName = none) :
    (Row.ofEntry e).context = Row.memberContext e (Destination.ofEntry e).typeName ↔
      partBeforeLast e.qualifiedName = "" := by
  rw [Destination.ofEntry_member member, Row.context_member member, unnamed, Row.memberContext_inj]
  exact eq_comm

/-- Without a name no look-up lists the entry. -/
theorem not_mem_members_of_unnamed (unnamed : e.typeName = none) (r : Record) :
    e ∉ (ofDocument d).members r := by
  intro hlisted
  obtain ⟨-, -, hname⟩ := (isMember_iff r e).mp (List.mem_filter.mp hlisted).2
  rw [unnamed] at hname
  cases hname

/-- Without a name the answers agree only if there is nothing to tell: the fallback finds no owner,
    and no type goes by the empty name that it finds instead. -/
theorem ownerAgreed_iff_of_unnamed (member : e.category.isType = false)
    (unnamed : e.typeName = none) :
    OwnerAgreed d e ↔ partBeforeLast e.qualifiedName = "" ∧
      ∀ (name : String) (r : Record), (Catalog.ofDocument d).find? name = some r →
        ¬ (r.packageName = e.packageName ∧ r.name = "") := by
  constructor
  · -- the row shows no owner, so the destination may not name one either
    intro agreed
    have hempty := (shown_iff_of_unnamed member unnamed).mp agreed.shown
    refine ⟨hempty, fun name r found hnamed => ?_⟩
    have hlisted := agreed.listed name r found
    rw [Destination.ofEntry_member member, unnamed] at hlisted
    refine not_mem_members_of_unnamed unnamed r (hlisted.mpr ?_)
    exact ⟨hnamed.1, hnamed.2.trans hempty.symm⟩
  · -- neither side of the second condition ever holds
    rintro ⟨hempty, hnone⟩
    refine ⟨(shown_iff_of_unnamed member unnamed).mpr hempty, fun name r found => ?_⟩
    rw [Destination.ofEntry_member member, unnamed]
    refine iff_of_false (not_mem_members_of_unnamed unnamed r) fun hnamed => ?_
    exact hnone name r found ⟨hnamed.1, hnamed.2.trans hempty⟩

/-- **The answers agree on the owner of a member exactly if its entry names it.**  A name that finds a
    type is answered by the sheet of that type with its members.  For every member in the index of the
    document:

    * if its entry names the owner, row, look-ups and destination tell the same;
    * if it does not, the destination still names an owner, but the row shows none and no look-up lists
      the entry; the answers then agree only if the qualified name holds no owner to fall back on, and
      no type of the package without a simple name can be looked up. -/
theorem owners_agree_iff_named (d : Document) (e : Entry) (indexed : e ∈ d.index)
    (member : e.category.isType = false) :
    (∀ (name : String) (r : Record), (Catalog.ofDocument d).find? name = some r →
      (ofDocument d).answerLookup ⟨name⟩ = .ok (sheet r ((ofDocument d).members r))) ∧
    (OwnerAgreed d e ↔ e.typeName ≠ none ∨
      (partBeforeLast e.qualifiedName = "" ∧
        ∀ (name : String) (r : Record), (Catalog.ofDocument d).find? name = some r →
          ¬ (r.packageName = e.packageName ∧ r.name = ""))) ∧
    (e.typeName = none →
      (Destination.ofEntry e).packageName = e.packageName ∧
      (Destination.ofEntry e).typeName = partBeforeLast e.qualifiedName ∧
      (Row.ofEntry e).context = Row.memberContext e "" ∧
      ∀ r : Record, e ∉ (ofDocument d).members r) := by
  refine ⟨fun name r found => answerLookup_of_found found, ?_, fun unnamed => ?_⟩
  · cases h : e.typeName with
    -- named: both sides hold
    | some owner =>
      exact iff_of_true (ownerAgreed_of_named indexed member h) (.inl (Option.some_ne_none owner))
    | none =>
      rw [ownerAgreed_iff_of_unnamed member h]
      exact (or_iff_right fun hnamed => hnamed rfl).symm
  · rw [Destination.ofEntry_member member, Row.context_member member, unnamed]
    exact ⟨rfl, rfl, rfl, not_mem_members_of_unnamed unnamed⟩

/-! ## A member without the name of its owner

  A name can be left out of an entry and still be in its qualified name.  Both forms stand in one
  index here, so that the look-up lists one of them and leaves the other out. -/

/-- A method whose entry does not name its owner. -/
def getName : Entry where
  category := .method
  name := "getName"
  qualifiedName := "com.acme.User.getName"
  packageName := "com.acme"
  returnType := some "String"

/-- The same method with the name of its owner. -/
def getNameOfUser : Entry := { getName with typeName := some "User" }

/-- The type that declares the method. -/
def user : Record := ⟨"com.acme.User", "User", "com.acme", .classType⟩

/-- A document with the type, and the method in both forms. -/
def twoForms : Document where
  packages := [⟨"com.acme", [⟨.classType, "User", "com.acme.User", []⟩]⟩]
  index := [getName, getNameOfUser]

theorem find?_user : (Catalog.ofDocument twoForms).find? "com.acme.User" = some user :=
  ((Catalog.represents_ofDocument _).find?_eq _).trans (by decide)

/-- The form that names the owner is told of in agreement. -/
theorem owners_agree_of_getNameOfUser :
    getNameOfUser ∈ twoForms.index ∧ getNameOfUser.category.isType = false ∧
      OwnerAgreed twoForms getNameOfUser := by
  have hindexed : getNameOfUser ∈ twoForms.index := by decide
  have hagree := (owners_agree_iff_named twoForms getNameOfUser hindexed rfl).2.1
  exact ⟨hindexed, rfl, hagree.mpr (.inl (by decide))⟩

/-- The other form leads to the page of `User`, but its row shows no owner, and the look-up of `User`
    lists only one of the two. -/
theorem fallback_owner_unlisted :
    Destination.ofEntry getName =
      .member .method "com.acme" "User" "getName" "com.acme.User.getName" ∧
    (Row.ofEntry getName).context = "com.acme. : String" ∧
    (Catalog.ofDocument twoForms).find? "com.acme.User" = some user ∧
    (ofDocument twoForms).members user = [getNameOfUser] ∧
    ¬ OwnerAgreed twoForms getName := by
  refine ⟨by decide, by decide, find?_user, by decide, fun agreed => ?_⟩
  have hempty := (shown_iff_of_unnamed rfl rfl).mp agreed.shown
  revert hempty
  decide

end Handbook
end DocIndex
