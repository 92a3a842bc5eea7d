/-
  READING WHAT WAS WRITTEN.

  A reader is described by what it finds in the texts of one kind: `Reads` says that it finds the same
  thing in each of them, whatever spacing stands in front and whatever text follows.  Readers are put
  together from readers, and so are the facts about them.

  1. **Strings** (`scanString_content`) — an escaped character is read back as itself, whatever follows.

  2. **The loops** (`items_listed`, `Taken.listed`) — by induction on what is listed.  Every element
     has at least one character, so a text is never longer than its rounds.

  3. **Readers** — a string, one of several names, a list, a record, and any value at all: `reads_value`
     is one induction over the value.  What is read is `asRead`, the value with the members of every
     object in ascending order of their keys.

  4. **Whole texts** (`parse_spelled`) — and what becomes of the members of an object: none is lost
     (`perm_gathered`), and each is found under its key (`lookup_of_mem`).

  A reader is never run on one text here.  Its callers do not know which spelling they meet, what
  spacing stands in front or what comes behind, so each statement is for all of them.  That is why a
  text must be known to begin with something (`Solid`), and why it may have to be followed by
  something else (`Apart`).
-/
import DocIndex.Json.Reader
import DocIndex.Proofs.Json.Texts
import Mathlib.Data.List.Forall2
import Mathlib.Data.List.Nodup

namespace DocIndex.Json

/-! ## Spacing and strings

  Strings are the one thing that is encoded, and they are read character by character; everything
  later takes a string as a whole. -/

/-- Spacing is passed over up to the first character that is none.  Every reader begins so. -/
theorem spaced_gap {gap : List Char} (blank : Gap gap) {c : Char} (hc : isSpacing c = false)
    (rest : List Char) : spaced (gap ++ c :: rest) = c :: rest := by
  rw [spaced, List.dropWhile_append_of_pos blank]
  simp [hc]

/-- The four digits that are written for a control character spell its code. -/
theorem hexUnit_control : ∀ n < 32,
    hexUnit? '0' '0' (hexDigitOf (n / 16)) (hexDigitOf (n % 16)) = some n := by
  decide

/-- A backslash and a letter stand for one character. -/
theorem scanString_letter {e c : Char} (he : e ≠ 'u') (hletter : letterEscape? e = some c)
    (rest : List Char) : scanString ('\\' :: e :: rest) = putFront c (scanString rest) := by
  rw [scanString.eq_def]
  simp [he, hletter]

/-- An escaped character is read back as itself, whatever follows. -/
theorem scanString_writeChar (c : Char) (rest : List Char) :
    scanString (writeChar c ++ rest) = putFront c (scanString rest) := by
  rw [writeChar]
  split
  · rename_i h; subst h; exact scanString_letter (by decide) (by decide) rest
  split
  · rename_i h; subst h; exact scanString_letter (by decide) (by decide) rest
  split
  · rename_i h; subst h; exact scanString_letter (by decide) (by decide) rest
  split
  · rename_i h; subst h; exact scanString_letter (by decide) (by decide) rest
  split
  · rename_i h; subst h; exact scanString_letter (by decide) (by decide) rest
  split
  · rename_i h; subst h; exact scanString_letter (by decide) (by decide) rest
  split
  · rename_i h; subst h; exact scanString_letter (by decide) (by decide) rest
  split
  · -- a control without a letter of its own is no half of a pair
    rename_i hcontrol
    have hunit := hexUnit_control c.toNat hcontrol
    have hlow : isLowHalf c.toNat = false := by simp [isLowHalf]; omega
    have hhigh : isHighHalf c.toNat = false := by simp [isHighHalf]; omega
    simp only [List.cons_append, List.nil_append]
    rw [scanString.eq_def]
    simp [hunit, hlow, hhigh, Char.ofNat_toNat]
  · -- anything else stands for itself
    rename_i hquote hslash _ _ _ _ _ hcontrol
    simp only [List.cons_append, List.nil_append]
    rw [scanString.eq_def]
    simp [hquote, hslash, hcontrol]

/-- The content of a string is read up to its closing quote. -/
theorem scanString_content (cs rest : List Char) :
    scanString (cs.flatMap writeChar ++ '"' :: rest) = .ok (cs, rest) := by
  induction cs with
  | nil =>
    rw [List.flatMap_nil, List.nil_append, scanString.eq_def]
    rfl
  | cons c cs ih =>
    rw [List.flatMap_cons, List.append_assoc, scanString_writeChar, ih]
    rfl

/-- A string as its readers see it: a quote, the content, and a quote with everything else behind
    it. -/
theorem writeString_append (s : String) (rest : List Char) :
    writeString s ++ rest = '"' :: (s.toList.flatMap writeChar ++ '"' :: rest) := by
  simp [writeString]

/-! ## What a reader finds

  Readers are functions from a text to a value and the text behind it.  They count rounds, which is
  how their loops end on every text; that a text of `n` characters takes fewer than `n + 1` of them
  is carried along in every statement about a reader. -/

/-- The text starts with a character that is no spacing and closes no list. -/
def Solid (text : List Char) : Prop :=
  ∃ c cs, text = c :: cs ∧ isSpacing c = false ∧ c ≠ ']'

/-- The reader finds `a` in every text of the kind, whatever spacing stands in front and whatever
    follows, as long as it has more rounds than the text has characters. -/
structure Reads {α : Type} (rounds : Nat) (read : List Char → Except Fault (After α)) (T : Texts)
    (a : α) : Prop where
  solid : ∀ text, T text → Solid text
  found : ∀ text, T text → text.length < rounds → ∀ gap, Gap gap → ∀ rest,
    read (gap ++ (text ++ rest)) = .ok (a, rest)

variable {α β σ : Type} {rounds : Nat} {T : Texts} {Ts : List Texts}

/-- A reader that goes on with what another one found. -/
theorem Reads.andThen {read : List Char → Except Fault (After α)} {a : α} (h : Reads rounds read T a)
    {next : After α → Except Fault (After β)} {b : β} (hnext : ∀ rest, next (a, rest) = .ok (b, rest)) :
    Reads rounds (fun cs => read cs >>= next) T b := by
  refine ⟨h.solid, ?_⟩
  intro text htext hlength gap blank rest
  show read (gap ++ (text ++ rest)) >>= next = _
  rw [h.found text htext hlength gap blank rest]
  exact hnext rest

/-- A reader of one kind of texts reads all narrower kinds. -/
theorem Reads.within {read : List Char → Except Fault (After α)} {a : α} {T' : Texts}
    (h : Reads rounds read T a) (hwithin : Within T' T) : Reads rounds read T' a :=
  ⟨fun text htext => h.solid text (hwithin text htext),
    fun text htext => h.found text (hwithin text htext)⟩

/-! ## Lists

  The loop looks for the next element and calls the reader of elements.  All that it has to know of
  an element is where it begins, and that is why a text has to be `Solid`. -/

/-- In front of an element the loop passes over the comma and the spacing and stops at the element. -/
theorem nextItem_text {first : Bool} {front text : List Char} (separates : Separates first front)
    (solid : Solid text) (rest : List Char) :
    nextItem first (front ++ (text ++ rest)) = .ok (some (text ++ rest)) := by
  obtain ⟨c, cs, rfl, hspacing, hclosing⟩ := solid
  cases separates with
  | start blank =>
    rw [nextItem, List.cons_append, spaced_gap blank hspacing]
    simp [hclosing]
  | comma blank blank' =>
    rw [nextItem, List.append_assoc, List.cons_append, spaced_gap blank (by decide)]
    simp [spaced_gap blank' hspacing, hclosing]

/-- At the closing bracket the loop ends, before or behind elements. -/
theorem nextItem_end {first : Bool} {gap : List Char} (blank : Gap gap) (rest : List Char) :
    nextItem first (gap ++ ']' :: rest) = .ok none := by
  rw [nextItem, spaced_gap blank (by decide)]
  rfl

/-- The closing bracket of a list, behind any spacing. -/
theorem endList_gap {gap : List Char} (blank : Gap gap) (rest : List Char) :
    endList (gap ++ ']' :: rest) = .ok rest := by
  rw [endList, spaced_gap blank (by decide)]
  rfl

/-- **The loop over elements** reads what is listed and stops before the closing bracket. -/
theorem items_listed {item : List Char → Except Fault (After α)} {as : List α}
    (h : List.Forall₂ (Reads rounds item) Ts as) {first : Bool} {body : List Char}
    (listed : Listed first Ts body) (hrounds : body.length < rounds) {n : Nat}
    (hn : body.length < n) (rest : List Char) :
    ∃ gap, Gap gap ∧ items item n first (body ++ ']' :: rest) = .ok (as, gap ++ ']' :: rest) := by
  induction h generalizing first body n with
  -- nothing is listed: there is spacing, and the bracket ends the loop
  | nil =>
    cases listed with
    | nil blank =>
      obtain ⟨n, rfl⟩ := Nat.exists_eq_add_one_of_ne_zero (Nat.ne_zero_of_lt hn)
      refine ⟨body, blank, ?_⟩
      rw [items, nextItem_end blank]
      rfl
  | cons hread hreads ih =>
    cases listed with
    | @cons _ _ _ front text more separates here hmore =>
      obtain ⟨n, rfl⟩ := Nat.exists_eq_add_one_of_ne_zero (Nat.ne_zero_of_lt hn)
      have hsolid := hread.solid text here
      -- the element has a character, so one round less is still enough for the rest
      have hpos : 0 < text.length := by
        obtain ⟨c, cs, rfl, -⟩ := hsolid
        exact Nat.succ_pos _
      simp only [List.length_append] at hrounds hn
      obtain ⟨gap, blank, hitems⟩ := ih hmore (by omega) (n := n) (by omega)
      refine ⟨gap, blank, ?_⟩
      have hfound := hread.found text here (by omega) [] gap_nil (more ++ ']' :: rest)
      rw [List.nil_append] at hfound
      -- one round: to the element, over it, and on by induction
      rw [List.append_assoc, List.append_assoc, items, nextItem_text separates hsolid]
      simp only [bind, Except.bind, hfound, hitems]
      rfl

/-- Between brackets: the text begins with the opening one. -/
theorem solid_enclosed {opening closing : Char} (hspacing : isSpacing opening = false)
    (hclosing : opening ≠ ']') (text : List Char) (h : Enclosed opening closing Ts text) :
    Solid text := by
  obtain ⟨-⟩ := h
  exact ⟨_, _, rfl, hspacing, hclosing⟩

/-- What is listed between brackets is read, whatever follows. -/
theorem items_enclosed {item : List Char → Except Fault (After α)} {as : List α}
    (h : List.Forall₂ (Reads rounds item) Ts as) {text : List Char}
    (htext : Enclosed '[' ']' Ts text) (hlength : text.length < rounds) (rest : List Char) :
    ∃ body gap, text ++ rest = '[' :: body ∧ Gap gap ∧
      items item rounds true body = .ok (as, gap ++ ']' :: rest) := by
  obtain @⟨body, listed⟩ := htext
  rw [List.length_cons, List.length_append] at hlength
  obtain ⟨gap, blank, hitems⟩ := items_listed h listed (by omega) (n := rounds) (by omega) rest
  refine ⟨body ++ ']' :: rest, gap, ?_, blank, hitems⟩
  rw [List.cons_append, List.append_assoc, List.singleton_append]

/-- A list of one sort of element. -/
theorem reads_listOf {item : List Char → Except Fault (After α)} {as : List α}
    (h : List.Forall₂ (Reads rounds item) Ts as) :
    Reads rounds (listOf rounds (some item)) (Enclosed '[' ']' Ts) as := by
  refine ⟨solid_enclosed (by decide) (by decide), ?_⟩
  intro text htext hlength gap blank rest
  obtain ⟨body, gap', hbody, blank', hitems⟩ := items_enclosed h htext hlength rest
  rw [hbody, listOf, spaced_gap blank (by decide)]
  simp only [bind, Except.bind, hitems, endList_gap blank']
  rfl

/-! ## Strings and names

  The two readers without a loop of their own. -/

theorem solid_writeString (s : String) (text : List Char) (h : text = writeString s) :
    Solid text := by
  subst h
  exact ⟨_, _, rfl, by decide, by decide⟩

theorem reads_text (s : String) : Reads rounds text (· = writeString s) s := by
  refine ⟨solid_writeString s, ?_⟩
  rintro _ rfl - gap blank rest
  rw [writeString_append, text, spaced_gap blank (by decide)]
  simp only [scanString_content]
  show Except.ok (String.ofList s.toList, rest) = _
  rw [String.ofList_toList]

/-- One of several names, written as a string. -/
theorem reads_choice {known : List (String × α)} {name : String} {a : α}
    (h : nameAmong known name = .ok a) (nested : Bool) :
    Reads rounds (choice known nested) (· = writeString name) a := by
  refine ⟨solid_writeString name, ?_⟩
  rintro _ rfl - gap blank rest
  rw [writeString_append, choice, spaced_gap blank (by decide)]
  simp only [↓reduceIte, scanString_content, bind, Except.bind, String.ofList_toList, h]
  rfl

/-! ## Objects

  The loop over members leads a state along, since a reader of records fills in a draft and a
  reader of values keeps a map.  `Taken` follows the states.  A value in an object may be a number,
  and a number ends only where something else begins, so what follows a member has to be known to
  be `Apart` from it.

  `Taken` asks nothing of how a key is spelled.  `Gathers` is the case of keys as the printer writes
  them, and it is built up field by field. -/

/-- In front of a key the loop passes over the comma, the spacing and the opening quote. -/
theorem nextKey_text {first : Bool} {front : List Char} (separates : Separates first front)
    (rest : List Char) : nextKey first (front ++ '"' :: rest) = .ok (some rest) := by
  cases separates with
  | start blank =>
    rw [nextKey, spaced_gap blank (by decide)]
    rfl
  | comma blank blank' =>
    rw [nextKey, List.append_assoc, List.cons_append, spaced_gap blank (by decide)]
    simp [spaced_gap blank' (show isSpacing '"' = false by decide)]

theorem nextKey_end {first : Bool} {gap : List Char} (blank : Gap gap) (rest : List Char) :
    nextKey first (gap ++ '}' :: rest) = .ok none := by
  rw [nextKey, spaced_gap blank (by decide)]
  rfl

theorem endObject_gap {gap : List Char} (blank : Gap gap) (rest : List Char) :
    endObject (gap ++ '}' :: rest) = .ok rest := by
  rw [endObject, spaced_gap blank (by decide)]
  rfl

theorem colon_gap {gap : List Char} (blank : Gap gap) (rest : List Char) :
    colon (gap ++ ':' :: rest) = .ok rest := by
  rw [colon, spaced_gap blank (by decide)]
  rfl

/-- What follows cannot go on with a number that stands in front of it. -/
def Apart (rest : List Char) : Prop :=
  ∀ c, rest.head? = some c → (c.isDigit || c == '.' || c == 'e' || c == 'E') = false

/-- Spacing, and a character behind it that cannot go on with a number. -/
theorem apart_gap {gap : List Char} (blank : Gap gap) {c : Char}
    (hc : (c.isDigit || c == '.' || c == 'e' || c == 'E') = false) (rest : List Char) :
    Apart (gap ++ c :: rest) := by
  intro d hd
  -- the first character is that of the spacing, if there is any
  cases gap with
  | nil =>
    cases hd
    exact hc
  | cons b gap =>
    cases hd
    have hspacing := blank d List.mem_cons_self
    simp only [isSpacing, Bool.or_eq_true, decide_eq_true_eq] at hspacing
    rcases hspacing with ((rfl | rfl) | rfl) | rfl <;> decide

/-- Behind a member comes spacing, a comma or the closing brace. -/
theorem Listed.apart {body : List Char} (listed : Listed false Ts body) (rest : List Char) :
    Apart (body ++ '}' :: rest) := by
  cases listed with
  | nil blank => exact apart_gap blank (by decide) rest
  | cons separates here more =>
    cases separates with
    | comma blank blank' =>
      rw [List.append_assoc, List.append_assoc, List.cons_append]
      exact apart_gap blank (by decide) _

/-- `member` is led from one state to the next by every text of the kind: a key in quotes, and what
    stands behind it. -/
def Takes (rounds : Nat) (member : σ → String → List Char → Except Fault (After σ)) (state : σ)
    (T : Texts) (next : σ) : Prop :=
  ∀ text, T text → text.length < rounds → ∃ inside, text = '"' :: inside ∧
    ∀ rest, Apart rest → (scanString (inside ++ rest) >>= fun found =>
      member state (String.ofList found.1) found.2) = .ok (next, rest)

/-- Members of an object are taken in one by one, from the first state to the last. -/
inductive Taken (rounds : Nat) (member : σ → String → List Char → Except Fault (After σ)) :
    σ → List Texts → σ → Prop where
  | nil {state : σ} : Taken rounds member state [] state
  | cons {state next last : σ} {T : Texts} {Ts : List Texts}
      (takes : Takes rounds member state T next) (more : Taken rounds member next Ts last) :
      Taken rounds member state (T :: Ts) last

/-- **The loop over members** takes in what is listed and stops before the closing brace. -/
theorem Taken.listed {member : σ → String → List Char → Except Fault (After σ)} {state last : σ}
    (h : Taken rounds member state Ts last) {first : Bool} {body : List Char}
    (listed : Listed first Ts body) (hrounds : body.length < rounds) {n : Nat}
    (hn : body.length < n) (rest : List Char) :
    ∃ gap, Gap gap ∧
      members member n first state (body ++ '}' :: rest) = .ok (last, gap ++ '}' :: rest) := by
  induction h generalizing first body n with
  | nil =>
    cases listed with
    | nil blank =>
      obtain ⟨n, rfl⟩ := Nat.exists_eq_add_one_of_ne_zero (Nat.ne_zero_of_lt hn)
      refine ⟨body, blank, ?_⟩
      rw [members, nextKey_end blank]
      rfl
  | @cons state next last T Ts takes htaken ih =>
    cases listed with
    | @cons _ _ _ front text more separates here hmore =>
      obtain ⟨n, rfl⟩ := Nat.exists_eq_add_one_of_ne_zero (Nat.ne_zero_of_lt hn)
      simp only [List.length_append] at hrounds hn
      obtain ⟨inside, rfl, htakes⟩ := takes text here (by omega)
      rw [List.length_cons] at hn
      obtain ⟨gap, blank, hmembers⟩ := ih hmore (by omega) (n := n) (by omega)
      refine ⟨gap, blank, ?_⟩
      have hnext := htakes (more ++ '}' :: rest) (hmore.apart rest)
      rw [List.append_assoc, List.append_assoc, List.cons_append, members, nextKey_text separates]
      -- a key that could not be read would not have led to the next state
      cases hkey : scanString (inside ++ (more ++ '}' :: rest)) with
      | error fault =>
        rw [hkey] at hnext
        cases hnext
      | ok found =>
        rw [hkey] at hnext
        have hmember : member state (String.ofList found.1) found.2 = .ok (next, more ++ '}' :: rest) :=
          hnext
        simp only [bind, Except.bind, hkey, hmember, hmembers]

theorem solid_object (text : List Char) (h : Enclosed '{' '}' Ts text) : Solid text :=
  solid_enclosed (by decide) (by decide) text h

/-- What is listed between braces is taken in, whatever follows. -/
theorem Taken.enclosed {member : σ → String → List Char → Except Fault (After σ)} {state last : σ}
    (h : Taken rounds member state Ts last) {text : List Char}
    (htext : Enclosed '{' '}' Ts text) (hlength : text.length < rounds) (rest : List Char) :
    ∃ body gap, text ++ rest = '{' :: body ∧ Gap gap ∧
      members member rounds true state body = .ok (last, gap ++ '}' :: rest) := by
  obtain @⟨body, listed⟩ := htext
  rw [List.length_cons, List.length_append] at hlength
  obtain ⟨gap, blank, hmembers⟩ := h.listed listed (by omega) (n := rounds) (by omega) rest
  refine ⟨body ++ '}' :: rest, gap, ?_, blank, hmembers⟩
  rw [List.cons_append, List.append_assoc, List.singleton_append]

/-- A record, from an object whose members are taken in. -/
theorem Taken.record {δ : Type} {l : Layout δ α} {draft : δ} {a : α}
    (h : Taken rounds (l.member rounds) l.blank Ts draft) (name : String)
    (hclose : l.close draft = .ok a) :
    Reads rounds (record name rounds (some l)) (Enclosed '{' '}' Ts) a := by
  refine ⟨solid_object, ?_⟩
  intro text htext hlength gap blank rest
  obtain ⟨body, gap', hbody, blank', hmembers⟩ := h.enclosed htext hlength rest
  rw [hbody, Json.record, spaced_gap blank (by decide)]
  simp only [bind, Except.bind, hmembers, hclose, endObject_gap blank']
  rfl

/-- Members whose keys are written as they are, and for which `member` reads a value behind the
    colon. -/
inductive Gathers (rounds : Nat) (member : σ → String → List Char → Except Fault (After σ)) :
    σ → List Texts → σ → Prop where
  | nil {state : σ} : Gathers rounds member state [] state
  | cons {state next last : σ} {key : String} {T : Texts} {Ts : List Texts}
      {read : List Char → Except Fault (After σ)}
      (behindColon : ∀ cs, member state key cs = colon cs >>= read)
      (reads : Reads rounds read T next) (more : Gathers rounds member next Ts last) :
      Gathers rounds member state (Member key T :: Ts) last

/-- A key that is written as it is leads to the reader of its value. -/
theorem takes_member {member : σ → String → List Char → Except Fault (After σ)} {state next : σ}
    {key : String} {read : List Char → Except Fault (After σ)}
    (behindColon : ∀ cs, member state key cs = colon cs >>= read) (reads : Reads rounds read T next) :
    Takes rounds member state (Member key T) next := by
  rintro _ @⟨before, after, text, blank, blank', here⟩ hlength
  simp only [List.length_append, List.length_cons] at hlength
  rw [writeString_append]
  refine ⟨_, rfl, fun rest _ => ?_⟩
  have hfound := reads.found text here (by omega) after blank' rest
  simp only [List.append_assoc, List.cons_append, scanString_content, bind, Except.bind,
    String.ofList_toList, behindColon, colon_gap blank, hfound]

/-- Gathering is a way of taking in, one in which the keys are those of the printer. -/
theorem Gathers.taken {member : σ → String → List Char → Except Fault (After σ)} {state last : σ}
    (h : Gathers rounds member state Ts last) : Taken rounds member state Ts last := by
  induction h with
  | nil => exact .nil
  | cons behindColon reads _ ih => exact .cons (takes_member behindColon reads) ih

/-- A field that is not known yet. -/
theorem Gathers.field {δ : Type} {l : Layout δ α} {draft next last : δ} {key : String}
    (hfield : l.fields.contains key = true) (hnew : l.filled draft key = false)
    (hfill : Reads rounds (l.fill draft key) T next)
    (more : Gathers rounds (l.member rounds) next Ts last) :
    Gathers rounds (l.member rounds) draft (Member key T :: Ts) last := by
  refine .cons (fun cs => ?_) hfill more
  rw [Layout.member, if_pos hfield, hnew]
  rfl

/-! ## Any value

  Of the readers only this one calls itself.  It is read with a limit on how many brackets are open,
  and a value within the limit is `Shallow`.  Numbers are left out: nothing that is read here holds
  one, and to read one is to round it. -/

/-- The members of an object as they are kept when they are read: in ascending order of the keys, and
    the last one of each key. -/
def gathered (ms : List (String × Json)) : List (String × Json) :=
  ms.foldl (fun known m => insert m.1 m.2 known) []

mutual

/-- The value that is read from the texts of a value. -/
def asRead : Json → Json
  | .list xs => .list (asReadItems xs)
  | .object ms => .object (gathered (asReadMembers ms))
  | v => v

/-- The elements of a list, each as it is read. -/
def asReadItems : List Json → List Json
  | [] => []
  | x :: xs => asRead x :: asReadItems xs

/-- The members of an object, each as it is read and still in the order of the text. -/
def asReadMembers : List (String × Json) → List (String × Json)
  | [] => []
  | m :: ms => asReadMember m :: asReadMembers ms

/-- One member as it is read. -/
def asReadMember : String × Json → String × Json
  | (key, v) => (key, asRead v)

end

mutual

/-- There are no numbers in the value, and at most `depth` brackets are open at once. -/
def Shallow : Nat → Json → Prop
  | _, .number _ => False
  | depth, .list xs => 0 < depth ∧ ShallowItems (depth - 1) xs
  | depth, .object ms => 0 < depth ∧ ShallowMembers (depth - 1) ms
  | _, _ => True

/-- The same for the elements of a list. -/
def ShallowItems : Nat → List Json → Prop
  | _, [] => True
  | depth, x :: xs => Shallow depth x ∧ ShallowItems depth xs

/-- The same for the members of an object. -/
def ShallowMembers : Nat → List (String × Json) → Prop
  | _, [] => True
  | depth, m :: ms => ShallowMember depth m ∧ ShallowMembers depth ms

/-- The same for the value of a member. -/
def ShallowMember : Nat → String × Json → Prop
  | depth, (_, v) => Shallow depth v

end

/-- Takes in a member under its key, as the reader of values does. -/
def keep (rounds depth : Nat) (known : List (String × Json)) (key : String) (cs : List Char) :
    Except Fault (After (List (String × Json))) := do
  let (v, cs) ← value rounds depth (← colon cs)
  return (insert key v known, cs)

/-- The reader of values at the bracket of a list. -/
theorem value_list {depth : Nat} {gap : List Char} (blank : Gap gap) (rest : List Char) :
    value rounds (depth + 1) (gap ++ '[' :: rest) = (do
      let (xs, rest) ← items (value rounds depth) rounds true rest
      return (.list xs, ← endList rest)) := by
  rw [value, spaced_gap blank (by decide)]
  rfl

/-- The reader of values at the brace of an object, with `keep` for what it does to each member. -/
theorem value_object {depth : Nat} {gap : List Char} (blank : Gap gap) (rest : List Char) :
    value rounds (depth + 1) (gap ++ '{' :: rest) = (do
      let (ms, rest) ← members (keep rounds depth) rounds true [] rest
      return (.object ms, ← endObject rest)) := by
  rw [value, spaced_gap blank (by decide)]
  rfl

/-- A literal is read if it is read behind any spacing. -/
theorem reads_literal {depth : Nat} {c : Char} {word : List Char} {v : Json}
    (hspacing : isSpacing c = false) (hclosing : c ≠ ']')
    (h : ∀ rest, value rounds depth (c :: (word ++ rest)) = .ok (v, rest)) :
    Reads rounds (value rounds depth) (· = c :: word) v := by
  refine ⟨?_, ?_⟩
  · rintro _ rfl
    exact ⟨_, _, rfl, hspacing, hclosing⟩
  · rintro _ rfl - gap blank rest
    have hrest := h rest
    have hgap := spaced_gap gap_nil hspacing (word ++ rest)
    rw [List.nil_append] at hgap
    rw [value, hgap] at hrest
    rw [List.cons_append, value, spaced_gap blank hspacing]
    exact hrest

mutual

/-- **Any value** is read from its texts. -/
theorem reads_value {depth : Nat} (v : Json) (h : Shallow depth v) :
    Reads rounds (value rounds depth) (Spells v) v.asRead := by
  match v with
  | .null => exact reads_literal (by decide) (by decide) fun rest => by rw [value]; rfl
  | .bool true => exact reads_literal (by decide) (by decide) fun rest => by rw [value]; rfl
  | .bool false => exact reads_literal (by decide) (by decide) fun rest => by rw [value]; rfl
  -- no value with numbers is shallow
  | .number n => exact h.elim
  | .string s =>
    refine ⟨solid_writeString s, ?_⟩
    rintro _ rfl - gap blank rest
    rw [writeString_append, value, spaced_gap blank (by decide)]
    simp [scanString_content, Except.map, asRead]
  | .list xs =>
    obtain ⟨hdepth, hitems⟩ := h
    -- one more bracket may be open outside than inside
    obtain ⟨depth, rfl⟩ := Nat.exists_eq_add_one_of_ne_zero (Nat.ne_zero_of_lt hdepth)
    rw [Nat.add_sub_cancel] at hitems
    refine ⟨solid_enclosed (by decide) (by decide), ?_⟩
    intro text htext hlength gap blank rest
    obtain ⟨body, gap', hbody, blank', hread⟩ :=
      items_enclosed (forall₂_reads_value xs hitems) htext hlength rest
    rw [hbody, value_list blank, hread]
    simp only [bind, Except.bind, endList_gap blank']
    rfl
  | .object ms =>
    obtain ⟨hdepth, hmembers⟩ := h
    obtain ⟨depth, rfl⟩ := Nat.exists_eq_add_one_of_ne_zero (Nat.ne_zero_of_lt hdepth)
    rw [Nat.add_sub_cancel] at hmembers
    refine ⟨solid_object, ?_⟩
    intro text htext hlength gap blank rest
    obtain ⟨body, gap', hbody, blank', hread⟩ :=
      (gathers_value ms hmembers []).taken.enclosed htext hlength rest
    rw [hbody, value_object blank, hread]
    simp only [bind, Except.bind, endObject_gap blank']
    rfl

/-- Each element of a list is read from its texts. -/
theorem forall₂_reads_value {depth : Nat} (xs : List Json) (h : ShallowItems depth xs) :
    List.Forall₂ (Reads rounds (value rounds depth)) (itemTexts xs) (asReadItems xs) := by
  match xs with
  | [] => exact .nil
  | x :: xs => exact .cons (reads_value x h.1) (forall₂_reads_value xs h.2)

/-- The members of an object are kept one after the other, on top of those that are known. -/
theorem gathers_value {depth : Nat} (ms : List (String × Json)) (h : ShallowMembers depth ms)
    (known : List (String × Json)) :
    Gathers rounds (keep rounds depth) known (memberTexts ms)
      ((asReadMembers ms).foldl (fun known m => insert m.1 m.2 known) known) := by
  match ms with
  | [] => exact .nil
  | (key, v) :: ms =>
    exact .cons (fun cs => rfl) ((reads_value v h.1).andThen fun rest => rfl)
      (gathers_value ms h.2 _)

end

/-! ## Whole texts

  A text is given as many rounds as it has characters and one more, which is always enough. -/

/-- Nothing is left after a text that is read as a whole. -/
theorem Reads.finish {read : List Char → Except Fault (After α)} {a : α} {text : List Char}
    (h : Reads (text.length + 1) read T a) (htext : T text) : (read text >>= finish) = .ok a := by
  have hfound := h.found text htext (Nat.lt_succ_self _) [] gap_nil []
  rw [List.nil_append, List.append_nil] at hfound
  rw [hfound]
  rfl

/-- **A text of a value** is parsed as the value. -/
theorem parse_spelled {v : Json} (h : Shallow nestingLimit v) {text : String}
    (htext : Spells v text.toList) : parse text = .ok v.asRead :=
  (reads_value v h).finish htext

theorem asReadItems_eq_map (xs : List Json) : asReadItems xs = xs.map asRead := by
  induction xs with
  | nil => rfl
  | cons x xs ih => rw [asReadItems, List.map_cons, ih]

theorem asReadMembers_eq_map (ms : List (String × Json)) :
    asReadMembers ms = ms.map fun m => (m.1, m.2.asRead) := by
  induction ms with
  | nil => rfl
  | cons m ms ih => rw [asReadMembers, asReadMember, List.map_cons, ih]

theorem shallowItems_iff {depth : Nat} {xs : List Json} :
    ShallowItems depth xs ↔ ∀ x ∈ xs, Shallow depth x := by
  induction xs with
  | nil => simp [ShallowItems]
  | cons x xs ih => simp [ShallowItems, ih]

theorem shallowMembers_iff {depth : Nat} {ms : List (String × Json)} :
    ShallowMembers depth ms ↔ ∀ m ∈ ms, Shallow depth m.2 := by
  induction ms with
  | nil => simp [ShallowMembers]
  | cons m ms ih =>
    obtain ⟨key, v⟩ := m
    rw [ShallowMembers, ShallowMember, ih, List.forall_mem_cons]

/-! ### Members of an object

  Members are kept in ascending order, so a reader cannot tell in which order they stood.  What
  remains is that they are the same members. -/

/-- A member with a new key is put somewhere among the others, and none of them goes. -/
theorem perm_insert {key : String} {ms : List (String × Json)} (h : key ∉ ms.map Prod.fst)
    (v : Json) : (insert key v ms).Perm ((key, v) :: ms) := by
  induction ms with
  | nil => exact .refl _
  | cons m ms ih =>
    obtain ⟨k, w⟩ := m
    rw [List.map_cons, List.mem_cons, not_or] at h
    rw [insert]
    split
    · -- here is its place in the order
      exact .refl _
    · rw [if_neg h.1]
      exact ((ih h.2).cons _).trans (.swap _ _ _)

/-- Members with new and different keys are put to those that are known. -/
theorem perm_foldl_insert {ms known : List (String × Json)}
    (h : (ms.map Prod.fst ++ known.map Prod.fst).Nodup) :
    (ms.foldl (fun known m => insert m.1 m.2 known) known).Perm (ms ++ known) := by
  induction ms generalizing known with
  | nil => exact .refl _
  | cons m ms ih =>
    obtain ⟨key, v⟩ := m
    rw [List.map_cons, List.cons_append, List.nodup_cons, List.mem_append, not_or] at h
    obtain ⟨⟨hlater, hknown⟩, hrest⟩ := h
    have hinsert := perm_insert hknown v
    -- with the new member the keys are still different
    have hnodup : (ms.map Prod.fst ++ (insert key v known).map Prod.fst).Nodup := by
      refine ((hinsert.map Prod.fst).append_left _).nodup_iff.mpr ?_
      rw [List.map_cons, List.nodup_middle, List.nodup_cons, List.mem_append, not_or]
      exact ⟨⟨hlater, hknown⟩, hrest⟩
    exact (ih hnodup).trans ((hinsert.append_left ms).trans List.perm_middle)

/-- Of members with different keys none is lost. -/
theorem perm_gathered {ms : List (String × Json)} (h : (ms.map Prod.fst).Nodup) :
    (gathered ms).Perm ms := by
  have hnodup : (ms.map Prod.fst ++ ([] : List (String × Json)).map Prod.fst).Nodup := by
    rwa [List.map_nil, List.append_nil]
  have hperm := perm_foldl_insert hnodup
  rwa [List.append_nil] at hperm

/-- Where keys are different, a member is found under its key. -/
theorem lookup_of_mem {ms : List (String × Json)} (h : (ms.map Prod.fst).Nodup) {key : String}
    {v : Json} (hmem : (key, v) ∈ ms) : ms.lookup key = some v := by
  obtain ⟨before, after, rfl⟩ := List.append_of_mem hmem
  refine List.lookup_eq_some_iff.mpr ⟨before, after, rfl, fun m hm => ?_⟩
  rw [List.map_append, List.map_cons, List.nodup_middle, List.nodup_cons, List.mem_append,
    not_or] at h
  refine bne_iff_ne.mpr fun heq => h.1.1 ?_
  show key ∈ before.map Prod.fst
  rw [heq]
  exact List.mem_map_of_mem hm

end DocIndex.Json
