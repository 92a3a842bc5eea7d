/-
  ANSWERS IN JSON READ BACK.

  An answer is written from a value, and whoever asked has only the text.  The buckets of a search are
  written in the order of display; a reader that keeps the members of an object by key loses that order,
  so the order of the text is stated with a reader of its own.

  1. **The order of the text** (`keysInText`) — the keys of an object as they stand in its text, repeated
     ones included.

  2. **Buckets** (`Buckets.perm_readMembers`) — the six members of a search are read back, none lost and none
     added, because the names of the buckets differ.

  3. **Segments** (`Segment.asRead_toJson`) — a segment is read back with its kind and what it holds.

  4. **Main statement** (`json_answers_read_back`) — both answers are given, and what their texts hold is
     what was found.
-/
import DocIndex.Dialogue.Tool
import DocIndex.Proofs.Document.Index

namespace DocIndex

open Json

/-! ## The order of the text

  The reader of values sorts the members of an object.  To speak of the order on the page there is a
  second reader, which takes the same texts and keeps the keys only. -/

namespace Json

/-- Adds the key of a member whose value is read and forgotten. -/
def addKey (rounds depth : Nat) (keys : List String) (key : String) (cs : List Char) :
    Except Fault (After (List String)) := do
  let (_, cs) ← value rounds depth (← colon cs)
  return (keys ++ [key], cs)

/-- The keys of an object, in the order of the text. -/
def objectKeys (rounds depth : Nat) (cs : List Char) : Except Fault (After (List String)) :=
  match spaced cs with
  | '{' :: rest => do
    let (keys, rest) ← members (addKey rounds depth) rounds true [] rest
    return (keys, ← endObject rest)
  | _ => .error .expectedValue

/-- The keys of the object that a whole text holds, in the order of the text. -/
def keysInText (text : String) : Except Fault (List String) := do
  finish (← objectKeys (text.toList.length + 1) (nestingLimit - 1) text.toList)

/-- The keys of members are gathered in their order, behind those that were there before. -/
theorem gathers_addKey {rounds depth : Nat} (ms : List (String × Json))
    (h : ShallowMembers depth ms) (keys : List String) :
    Gathers rounds (addKey rounds depth) keys (memberTexts ms) (keys ++ ms.map Prod.fst) := by
  induction ms generalizing keys with
  | nil =>
    rw [List.map_nil, List.append_nil]
    exact .nil
  | cons m ms ih =>
    obtain ⟨key, v⟩ := m
    have hmore := ih h.2 (keys ++ [key])
    rw [List.append_assoc] at hmore
    exact .cons (fun _ => rfl) ((reads_value v h.1).andThen fun _ => rfl) hmore

/-- The reader of keys finds those of the object in each of its texts.  It is the loop of the other
    readers with a state of its own, so nothing about texts has to be proved again. -/
theorem reads_objectKeys {rounds depth : Nat} {ms : List (String × Json)}
    (h : ShallowMembers depth ms) :
    Reads rounds (objectKeys rounds depth) (Spells (.object ms)) (ms.map Prod.fst) := by
  refine ⟨solid_object, ?_⟩
  intro text htext hlength gap blank rest
  obtain ⟨body, gap', hbody, blank', hmembers⟩ :=
    (gathers_addKey ms h []).taken.enclosed htext hlength rest
  rw [hbody, objectKeys, spaced_gap blank (by decide)]
  simp only [bind, Except.bind, hmembers, endObject_gap blank']
  rfl

/-- The keys of an object stand in each of its texts as in the object. -/
theorem keysInText_of_spells {ms : List (String × Json)} (h : Shallow nestingLimit (.object ms))
    {text : String} (htext : Spells (.object ms) text.toList) :
    keysInText text = .ok (ms.map Prod.fst) :=
  (reads_objectKeys h.2).finish htext

end Json

/-! ## Buckets

  Six members under six fixed names.  What is read is sorted by name, and the order of display is
  another one; `perm_readMembers` is the passage between the two. -/

namespace Buckets

theorem nodup_bucketNames : (Category.all.map Category.bucketName).Nodup := by decide

/-- The members of a search as they are read, in the order of display. -/
def readMembers (b : Buckets) : List (String × Json) :=
  Category.all.map fun c => (c.bucketName, .list ((b.get c).map fun e => e.toJson.asRead))

/-- The keys of a search are the names of the buckets, in the order of display. -/
theorem map_fst_readMembers (b : Buckets) :
    b.readMembers.map Prod.fst = Category.all.map Category.bucketName := rfl

/-- A search as it is read: the same members, by key. -/
theorem asRead_toJson (b : Buckets) : b.toJson.asRead = .object (gathered b.readMembers) := by
  rw [toJson, asRead, asReadMembers_eq_map, List.map_map, readMembers]
  -- bucket by bucket, and in each of them entry by entry
  refine congrArg (Json.object ∘ gathered) (List.map_congr_left fun c _ => ?_)
  simp only [Function.comp_apply, asRead, asReadItems_eq_map, List.map_map]
  rfl

/-- A search has an object, lists in it and entries in these, which is far from the limit. -/
theorem shallow_toJson (b : Buckets) : Shallow nestingLimit b.toJson := by
  refine ⟨by decide, shallowMembers_iff.mpr fun m hm => ?_⟩
  obtain ⟨c, -, rfl⟩ := List.mem_map.mp hm
  -- an entry needs one bracket more
  refine ⟨by decide, shallowItems_iff.mpr fun v hv => ?_⟩
  obtain ⟨e, -, rfl⟩ := List.mem_map.mp hv
  exact e.shallow_toJson (by decide)

/-- **None lost and none added**: keyed by the names of the buckets, the six members stay six. -/
theorem perm_readMembers (b : Buckets) : (gathered b.readMembers).Perm b.readMembers := by
  refine perm_gathered ?_
  rw [map_fst_readMembers]
  exact nodup_bucketNames

/-- A search is read as an object with the names of the buckets for its keys. -/
theorem map_fst_gathered (b : Buckets) :
    ((gathered b.readMembers).map Prod.fst).Perm (Category.all.map Category.bucketName) :=
  (b.perm_readMembers).map Prod.fst

/-- Under the name of a bucket stands what is in the bucket. -/
theorem lookup_gathered (b : Buckets) (c : Category) :
    (gathered b.readMembers).lookup c.bucketName =
      some (.list ((b.get c).map fun e => e.toJson.asRead)) := by
  refine lookup_of_mem ?_ (b.perm_readMembers.mem_iff.mpr ?_)
  · exact b.map_fst_gathered.nodup_iff.mpr nodup_bucketNames
  · refine List.mem_map.mpr ⟨c, ?_, rfl⟩
    -- every category is one of those that are displayed
    rcases c with (_ | _ | _ | _) | _ | _ <;> decide

end Buckets

/-! ## Segments

  There are three sorts of segments, and the kind that is written tells them apart. -/

namespace Segment

/-- The segment as it is read: its kind, and the text, or the label and the target, or the label. -/
def tagged : Segment → Json
  | .text content => .object [("kind", .string "text"), ("text", .string content)]
  | .link target label =>
    .object [("kind", .string "link"), ("label", .string label), ("target", .string target)]
  | .external label => .object [("kind", .string "external"), ("label", .string label)]

/-- **A segment is read back** with its kind.  Its fields are sorted by key, which puts the label in
    front of the target. -/
theorem asRead_toJson (s : Segment) : s.toJson.asRead = s.tagged := by
  cases s <;>
    simp only [toJson, tagged, asRead, asReadMembers, asReadMember, gathered, List.foldl_cons,
      List.foldl_nil, Json.insert, String.reduceLT, String.reduceEq, ↓reduceIte]

theorem shallow_toJson {depth : Nat} (h : 0 < depth) (s : Segment) : Shallow depth s.toJson := by
  cases s with
  | text content => exact ⟨h, trivial, trivial, trivial⟩
  | link target label => exact ⟨h, trivial, trivial, trivial, trivial⟩
  | external label => exact ⟨h, trivial, trivial, trivial⟩

end Segment

/-! ## Answers

  Both tools are called as a client calls them, with an object of arguments, so the arguments are
  read too. -/

namespace Handbook

/-- The answer to a search, if the query is long enough, is the search as a value over several
    lines. -/
theorem answerSearch_json (h : Handbook) {query : String} (long : queryLimit ≤ query.length) :
    h.answerSearch ⟨query, .json⟩ = (h.search query).toJson.pretty := by
  have hlong : isSearchable query = true := decide_eq_true long
  rw [answerSearch, if_pos hlong]

/-- **Answers in JSON read back.**  For every handbook, every query that is long enough and every type
    expression the tools answer, and

    * the answer to the search is an object with the names of the six buckets for its keys, which stand
      in the text in the order of display, and with entries under each name that are, one by one, those
      of the bucket;
    * the answer to the request to resolve is the list of the segments, each with its kind and with
      the text, the target and the label, or the label. -/
theorem json_answers_read_back (h : Handbook) (query expression : String)
    (long : queryLimit ≤ query.length) :
    Tool.call h .search (.object [("query", .string query), ("format", .string "json")]) =
      .ok (h.answerSearch ⟨query, .json⟩) ∧
    (∃ ms, Json.parse (h.answerSearch ⟨query, .json⟩) = .ok (.object ms) ∧
      (ms.map Prod.fst).Perm (Category.all.map Category.bucketName) ∧
      ∀ c, ∃ vs, (Json.object ms).get? c.bucketName = some (.list vs) ∧
        List.Forall₂ (fun v e => Entry.ofJson v = .ok e) vs ((h.search query).get c)) ∧
    Json.keysInText (h.answerSearch ⟨query, .json⟩) =
      .ok (Category.all.map Category.bucketName) ∧
    Tool.call h .resolveType
      (.object [("type_expression", .string expression), ("format", .string "json")]) =
      .ok (h.answerResolve ⟨expression, .json⟩) ∧
    Json.parse (h.answerResolve ⟨expression, .json⟩) =
      .ok (.list ((h.catalog.link expression).map Segment.tagged)) := by
  -- both answers are printed over several lines, and are texts of their values
  have hsearch : Spells (h.search query).toJson (h.answerSearch ⟨query, .json⟩).toList := by
    rw [h.answerSearch_json long, pretty, String.toList_ofList]
    exact spells_writeLines 0 _
  have hresolve : Spells (.list ((h.catalog.link expression).map Segment.toJson))
      (h.answerResolve ⟨expression, .json⟩).toList := by
    show Spells _ (String.toList (pretty _))
    rw [pretty, String.toList_ofList]
    exact spells_writeLines 0 _
  refine ⟨rfl, ⟨gathered (h.search query).readMembers, ?_, (h.search query).map_fst_gathered, ?_⟩,
    keysInText_of_spells (h.search query).shallow_toJson hsearch, rfl, ?_⟩
  · rw [parse_spelled (h.search query).shallow_toJson hsearch, Buckets.asRead_toJson]
  · intro c
    refine ⟨_, (h.search query).lookup_gathered c, ?_⟩
    -- every entry is read back as itself
    rw [List.forall₂_map_left_iff]
    exact List.forall₂_same.mpr fun e _ => e.ofJson_asRead
  · have hshallow : Shallow nestingLimit (.list ((h.catalog.link expression).map Segment.toJson)) := by
      refine ⟨by decide, shallowItems_iff.mpr fun v hv => ?_⟩
      obtain ⟨s, -, rfl⟩ := List.mem_map.mp hv
      exact s.shallow_toJson (by decide)
    rw [parse_spelled hshallow hresolve, asRead, asReadItems_eq_map, List.map_map]
    refine congrArg (fun vs => Except.ok (Json.list vs)) (List.map_congr_left fun s _ => ?_)
    exact s.asRead_toJson

/-- A document with one type and one method, whose signature has to be escaped. -/
def oneMethod : Document where
  packages := [⟨"p", [⟨.classType, "A", "p.A", []⟩]⟩]
  index := [{ Entry.ofMember .method ⟨"p", "A", "p.A"⟩ "get" with signature := some "get(\"\\\")" }]

/-- The signature holds a quote and a backslash, and the entry is read back with it. -/
theorem json_answers_of_oneMethod :
    queryLimit ≤ "ge".length ∧
    ((ofDocument oneMethod).search "ge").get .method = oneMethod.index ∧
    ∃ ms vs, Json.parse ((ofDocument oneMethod).answerSearch ⟨"ge", .json⟩) = .ok (.object ms) ∧
      (Json.object ms).get? "methods" = some (.list vs) ∧
      List.Forall₂ (fun v e => Entry.ofJson v = .ok e) vs oneMethod.index := by
  have hlong : queryLimit ≤ "ge".length := by decide
  have hfound : ((ofDocument oneMethod).search "ge").get .method = oneMethod.index := by decide
  obtain ⟨-, ⟨ms, hparse, -, hbuckets⟩, -⟩ :=
    json_answers_read_back (ofDocument oneMethod) "ge" "A[]" hlong
  obtain ⟨vs, hget, hentries⟩ := hbuckets .method
  rw [hfound] at hentries
  exact ⟨hlong, hfound, ms, vs, hparse, hget, hentries⟩

end Handbook
end DocIndex
