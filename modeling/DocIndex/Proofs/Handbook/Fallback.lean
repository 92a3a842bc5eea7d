/-
  THE OWNER IN A QUALIFIED NAME.

  The entry of a member names its owner.  Where it does not, the destination reads the owner off the
  qualified name: the part before the last.  Names are put together from the FRONT, package by package
  and type by type, and taken apart from the BACK, dot by dot; the two meet only if no simple name
  brings a dot of its own.

  1. **Taking apart** — behind a member without a dot, the part before the last is the last part of what
     stands in front (`partBeforeLast_member`).  A name has exactly one last part (`isLastPart_iff`).

  2. **Putting together** (`isLastPart_qualified`) — a type that is declared in a package, or inside
     other types at any depth, has its simple name as the last part of its qualified name.

  3. **Main statement** (`fallback_recovers_owner`) — the fallback leads where the entry leads exactly if
     the simple name of the owner is the last part of its qualified name.
-/
import DocIndex.Proofs.Handbook.Owners
import DocIndex.Proofs.TypeExpr.Linking

namespace DocIndex

/-! ## Taking names apart

  A name is walked from its end to the first dot, so the lemmas are about reversed texts, and each
  asks that the part behind the dot brings none of its own. -/

theorem ne_dot_of_plain {cs : List Char} (plain : '.' ∉ cs) :
    ∀ c ∈ cs.reverse, decide (c ≠ '.') = true := by
  intro c hc
  refine decide_eq_true fun hdot => plain ?_
  rw [← hdot]
  exact List.mem_reverse.mp hc

/-- From the back, a name is its last part, a dot and what stands in front. -/
theorem reverse_behind_dot (front part : String) :
    (front ++ "." ++ part).toList.reverse = part.toList.reverse ++ '.' :: front.toList.reverse := by
  simp [String.toList_append]

/-- What stands behind a dot and has none itself is the last part. -/
theorem lastPart_behind_dot (front : String) {part : String} (plain : '.' ∉ part.toList) :
    lastPart (front ++ "." ++ part) = part := by
  rw [lastPart, reverse_behind_dot, List.takeWhile_append_of_pos (ne_dot_of_plain plain)]
  show String.ofList (part.toList.reverse ++ []).reverse = part
  rw [List.append_nil, List.reverse_reverse, String.ofList_toList]

/-- A name without a dot is its own last part. -/
theorem lastPart_of_plain {name : String} (plain : '.' ∉ name.toList) : lastPart name = name := by
  rw [lastPart, ← List.append_nil name.toList.reverse,
    List.takeWhile_append_of_pos (ne_dot_of_plain plain)]
  show String.ofList (name.toList.reverse ++ []).reverse = name
  rw [List.append_nil, List.reverse_reverse, String.ofList_toList]

/-- A name has one last part. -/
theorem isLastPart_iff (name part : String) : IsLastPart name part ↔ lastPart name = part := by
  constructor
  · rintro ⟨plain, rfl | ⟨front, rfl⟩⟩
    · exact lastPart_of_plain plain
    · exact lastPart_behind_dot front plain
  · rintro rfl
    exact isLastPart_lastPart name

/-- Behind a member, the part before the last is the last part of the owner's name. -/
theorem partBeforeLast_member (owner : String) {name : String} (plain : '.' ∉ name.toList) :
    partBeforeLast (owner ++ "." ++ name) = lastPart owner := by
  rw [partBeforeLast, reverse_behind_dot, List.dropWhile_append_of_pos (ne_dot_of_plain plain)]
  rfl

/-! ## Putting names together

  The package may be unnamed, and then the first dot is left out.  This is the only case split that
  names are put together with. -/

/-- The qualified name of a type that is declared inside other types, the outermost of which is
    declared in the package. -/
def qualifyWithin (package : String) (outer : List String) (name : String) : String :=
  (outer ++ [name]).foldl qualify package

/-- One step of putting a name together: whatever stood before, the new name is behind a dot, or
    there was nothing before it. -/
theorem isLastPart_qualify (package : String) {name : String} (plain : '.' ∉ name.toList) :
    IsLastPart (qualify package name) name := by
  rw [qualify]
  split
  · exact ⟨plain, .inl rfl⟩
  · exact ⟨plain, .inr ⟨package, rfl⟩⟩

/-- The last part of a qualified name is the simple name, at any depth and in any package. -/
theorem isLastPart_qualified (package : String) (outer : List String) {name : String}
    (plain : '.' ∉ name.toList) : IsLastPart (qualifyWithin package outer name) name := by
  rw [qualifyWithin, List.foldl_append]
  exact isLastPart_qualify _ plain

/-! ## The destination without the name of the owner

  The same entry with and without the name, and what each of them leads to. -/

/-- An entry that does not tell its owner. -/
def Entry.unowned (e : Entry) : Entry := { e with typeName := none }

namespace Destination

/-- The destination of a member, if its entry tells the owner. -/
theorem ofEntry_ofMember {category : Category} (member : category.isType = false) (owner : Owner)
    (name : String) :
    ofEntry (.ofMember category owner name) =
      .member category owner.package owner.name name (owner.qualifiedName ++ "." ++ name) :=
  ofEntry_member member

/-- The destination of a member, if its entry does not. -/
theorem ofEntry_unowned {category : Category} (member : category.isType = false) (owner : Owner)
    {name : String} (plain : '.' ∉ name.toList) :
    ofEntry (Entry.ofMember category owner name).unowned =
      .member category owner.package (lastPart owner.qualifiedName) name
        (owner.qualifiedName ++ "." ++ name) := by
  rw [← partBeforeLast_member owner.qualifiedName plain]
  exact ofEntry_member member

/-- **The fallback recovers the owner.**  For a method or a field whose name has no dot, of any owner:
    without the name of its owner the entry leads to the same place exactly if the simple name of the
    owner is the last part of the qualified name, so that it has no dot, and is the whole of the
    qualified name or stands behind a dot at its end.  That is so for every owner whose name was put
    together from a package, perhaps unnamed, any number of types around it, and a simple name without
    a dot. -/
theorem fallback_recovers_owner (category : Category) (member : category.isType = false)
    (owner : Owner) (name : String) (plain : '.' ∉ name.toList) :
    let e := Entry.ofMember category owner name
    (ofEntry e.unowned = ofEntry e ↔
      '.' ∉ owner.name.toList ∧ (owner.name = owner.qualifiedName ∨
        ∃ front, owner.qualifiedName = front ++ "." ++ owner.name)) ∧
    (∀ package outer, owner.qualifiedName = qualifyWithin package outer owner.name →
      '.' ∉ owner.name.toList → ofEntry e.unowned = ofEntry e) := by
  intro e
  -- the two destinations differ in the name of the owner only
  have hiff : ofEntry e.unowned = ofEntry e ↔ IsLastPart owner.qualifiedName owner.name := by
    rw [isLastPart_iff, ofEntry_unowned member owner plain, ofEntry_ofMember member owner name]
    constructor
    · intro hsame
      injection hsame
    · intro hlast
      rw [hlast]
  refine ⟨hiff, fun package outer qualified simple => hiff.mpr ?_⟩
  rw [qualified]
  exact isLastPart_qualified package outer simple

/-- A type two types deep in the unnamed package. -/
def cursor : Owner := ⟨"", "Cursor", "Editor.View.Cursor"⟩

/-- A field of it leads to its page with and without the name of the owner. -/
theorem fallback_recovers_cursor :
    Category.field.isType = false ∧ '.' ∉ "line".toList ∧
    cursor.qualifiedName = qualifyWithin "" ["Editor", "View"] "Cursor" ∧
    '.' ∉ cursor.name.toList ∧
    ofEntry (Entry.ofMember .field cursor "line").unowned =
      ofEntry (Entry.ofMember .field cursor "line") := by
  have hqualified : cursor.qualifiedName = qualifyWithin "" ["Editor", "View"] "Cursor" := by decide
  refine ⟨rfl, by decide, hqualified, by decide, ?_⟩
  exact (fallback_recovers_owner .field rfl cursor "line" (by decide)).2 _ _ hqualified (by decide)

-- a simple name with a dot is cut, and the fallback names another owner
example :
    (ofEntry (Entry.ofMember .method ⟨"p", "Map.Entry", "p.Map.Entry"⟩ "key").unowned).typeName =
      "Entry" := by decide

end Destination
end DocIndex
