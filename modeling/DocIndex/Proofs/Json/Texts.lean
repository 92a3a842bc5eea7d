/-
  THE TEXTS OF A JSON VALUE.

  A value has many texts, since spacing may stand around every bracket, comma and colon.  They are
  described here without a printer and without a reader, so that a statement about reading holds
  for every layout.

  1. **Grammar** — `Listed` says what may stand between two brackets: texts of given kinds, in their
     order, with commas between them.  `Member` is a key with its value, `Spells` puts the two
     together.  The order of the members of an object is part of its text.

  2. **Printing** (`spells_write`, `spells_writeLines`) — both layouts of the printer are texts of the
     value.  The step is `Listed.behindComma`: what can stand first can stand behind a comma.
-/
import DocIndex.Json.Printer
import DocIndex.Json.Scan
import Mathlib.Data.List.Forall2

namespace DocIndex.Json

/-! ## Grammar

  Kinds of texts are predicates, and the grammar is put together from kinds: a list of kinds gives
  the kind of what is listed, and brackets around it give another.  So one lemma about `Listed`
  serves lists and objects alike, whatever stands in them.

  Spacing belongs to what stands in front: that of the first element to the opening bracket, that
  of a later one to its comma, and what is left over to the end. -/

/-- Texts of one kind. -/
abbrev Texts := List Char → Prop

/-- Nothing but spacing. -/
def Gap (cs : List Char) : Prop := ∀ c ∈ cs, isSpacing c = true

/-- What stands in front of an element: spacing, and a comma unless the element is the first. -/
inductive Separates : Bool → List Char → Prop where
  | start {gap : List Char} (blank : Gap gap) : Separates true gap
  | comma {before after : List Char} (blank : Gap before) (blank' : Gap after) :
      Separates false (before ++ ',' :: after)

/-- What stands between two brackets; `first` says that nothing was listed yet. -/
inductive Listed : Bool → List Texts → List Char → Prop where
  | nil {first : Bool} {gap : List Char} (blank : Gap gap) : Listed first [] gap
  | cons {first : Bool} {T : Texts} {Ts : List Texts} {front text rest : List Char}
      (separates : Separates first front) (here : T text) (more : Listed false Ts rest) :
      Listed first (T :: Ts) (front ++ (text ++ rest))

/-- Texts of the given kinds between two brackets. -/
inductive Enclosed (opening closing : Char) (Ts : List Texts) : Texts where
  | mk {body : List Char} (listed : Listed true Ts body) :
      Enclosed opening closing Ts (opening :: (body ++ [closing]))

/-- A key, a colon and a text for its value. -/
inductive Member (key : String) (T : Texts) : Texts where
  | mk {before after text : List Char} (blank : Gap before) (blank' : Gap after) (here : T text) :
      Member key T (writeString key ++ (before ++ ':' :: (after ++ text)))

mutual

/-- The texts of a value.  Strings and numbers are written in one way only. -/
def Spells : Json → Texts
  | .null => (· = ['n', 'u', 'l', 'l'])
  | .bool true => (· = ['t', 'r', 'u', 'e'])
  | .bool false => (· = ['f', 'a', 'l', 's', 'e'])
  | .number n => (· = writeNumber n)
  | .string s => (· = writeString s)
  | .list xs => Enclosed '[' ']' (itemTexts xs)
  | .object ms => Enclosed '{' '}' (memberTexts ms)

/-- The kinds of texts of the elements of a list. -/
def itemTexts : List Json → List Texts
  | [] => []
  | x :: xs => Spells x :: itemTexts xs

/-- The kinds of texts of the members of an object. -/
def memberTexts : List (String × Json) → List Texts
  | [] => []
  | m :: ms => memberText m :: memberTexts ms

/-- The texts of one member. -/
def memberText : String × Json → Texts
  | (key, v) => Member key (Spells v)

end

/-! ### Spacing

  The spacing that the printer makes use of, and that there may be more. -/

/-- No spacing at all is spacing too, as in the layout without any. -/
theorem gap_nil : Gap [] := by
  intro c hc
  cases hc

/-- The blank behind a colon, in the layout over several lines. -/
theorem gap_space : Gap [' '] := by
  intro c hc
  rw [List.mem_singleton.mp hc]
  decide

/-- A line break and its indentation are spacing. -/
theorem gap_newLine (indent : Nat) : Gap (newLine indent) := by
  intro c hc
  rcases List.mem_cons.mp hc with rfl | hc
  · decide
  · rw [List.eq_of_mem_replicate hc]
    decide

theorem Gap.append {cs ds : List Char} (hc : Gap cs) (hd : Gap ds) : Gap (cs ++ ds) := by
  intro c hmem
  rcases List.mem_append.mp hmem with hmem | hmem
  · exact hc c hmem
  · exact hd c hmem

/-- Spacing may follow what is listed. -/
theorem Listed.append_gap {first : Bool} {Ts : List Texts} {text gap : List Char}
    (h : Listed first Ts text) (blank : Gap gap) : Listed first Ts (text ++ gap) := by
  induction h with
  | nil blank' => exact .nil (blank'.append blank)
  | cons separates here _ ih =>
    rw [List.append_assoc, List.append_assoc]
    exact .cons separates here ih

/-! ### Wider kinds of texts

  A text of a value with its fields in one spelling is also a text of some more general kind, one
  element at a time. -/

/-- Every text of the one kind is of the other. -/
def Within (T U : Texts) : Prop := ∀ text, T text → U text

theorem Within.refl (T : Texts) : Within T T := fun _ h => h

/-- Each element may be taken from a wider kind.  This is how a statement about all the texts of
    some members comes to be used for those of one printer. -/
theorem Listed.mono {Ts Us : List Texts} (hwithin : List.Forall₂ Within Ts Us) {first : Bool}
    {text : List Char} (h : Listed first Ts text) : Listed first Us text := by
  induction h generalizing Us with
  | nil blank =>
    cases hwithin
    exact .nil blank
  | cons separates here _ ih =>
    cases hwithin with
    | cons hhead htail => exact .cons separates (hhead _ here) (ih htail)

/-- Wider kinds between the brackets make a wider kind of the whole. -/
theorem within_enclosed {opening closing : Char} {Ts Us : List Texts}
    (hwithin : List.Forall₂ Within Ts Us) :
    Within (Enclosed opening closing Ts) (Enclosed opening closing Us) := by
  intro text h
  obtain ⟨listed⟩ := h
  exact .mk (listed.mono hwithin)

/-- A wider kind of value makes a wider kind of member. -/
theorem within_member (key : String) {T U : Texts} (hwithin : Within T U) :
    Within (Member key T) (Member key U) := by
  intro text h
  obtain ⟨blank, blank', here⟩ := h
  exact .mk blank blank' (hwithin _ here)

/-! ## Printing

  The printer puts a comma in front of all elements but the first, and both of its layouts recurse
  in this way: nothing, one element, or one in front of others.  The induction for each layout
  follows the three functions of the printer. -/

/-- One element with nothing behind it. -/
theorem Listed.single {T : Texts} {gap text : List Char} (blank : Gap gap) (here : T text) :
    Listed true [T] (gap ++ text) := by
  have h : Listed true [T] (gap ++ (text ++ [])) := .cons (.start blank) here (.nil gap_nil)
  rwa [List.append_nil] at h

/-- **The step**: what can stand first can stand behind a comma. -/
theorem Listed.behindComma {T T' : Texts} {Ts : List Texts} {gap text rest : List Char}
    (blank : Gap gap) (here : T text) (more : Listed true (T' :: Ts) rest) :
    Listed true (T :: T' :: Ts) (gap ++ text ++ ',' :: rest) := by
  rw [List.append_assoc]
  refine .cons (.start blank) here ?_
  -- whatever spacing the rest began with now stands behind the comma
  cases more with
  | cons separates here' more =>
    cases separates with
    | start blank' => exact .cons (.comma gap_nil blank') here' more

mutual

/-- A value without spacing is a text of the value. -/
theorem spells_write (v : Json) : Spells v (write v) := by
  cases v with
  | null => rfl
  | bool b => cases b <;> rfl
  | number n => rfl
  | string s => rfl
  | list xs => exact .mk (listed_writeItems xs)
  | object ms => exact .mk (listed_writeMembers ms)

/-- The elements of a list without spacing. -/
theorem listed_writeItems (xs : List Json) : Listed true (itemTexts xs) (writeItems xs) := by
  match xs with
  | [] => exact .nil gap_nil
  | [x] => exact .single gap_nil (spells_write x)
  | x :: y :: ys => exact .behindComma gap_nil (spells_write x) (listed_writeItems (y :: ys))

/-- The members of an object without spacing. -/
theorem listed_writeMembers (ms : List (String × Json)) :
    Listed true (memberTexts ms) (writeMembers ms) := by
  match ms with
  | [] => exact .nil gap_nil
  | [m] => exact .single gap_nil (memberText_writeMember m)
  | m :: n :: ns =>
    exact .behindComma gap_nil (memberText_writeMember m) (listed_writeMembers (n :: ns))

/-- A member without spacing: nothing before the colon and nothing behind it. -/
theorem memberText_writeMember (m : String × Json) : memberText m (writeMember m) := by
  obtain ⟨key, v⟩ := m
  exact .mk gap_nil gap_nil (spells_write v)

end

mutual

/-- A value over several lines is a text of the value. -/
theorem spells_writeLines (indent : Nat) (v : Json) : Spells v (writeLines indent v) := by
  match v with
  | .null => rfl
  | .bool true => rfl
  | .bool false => rfl
  | .number n => rfl
  | .string s => rfl
  -- empty brackets stay on one line
  | .list [] => exact .mk (.nil gap_nil)
  | .list (x :: xs) =>
    exact .mk ((listed_writeItemLines (indent + 1) (x :: xs)).append_gap (gap_newLine indent))
  | .object [] => exact .mk (.nil gap_nil)
  | .object (m :: ms) =>
    exact .mk ((listed_writeMemberLines (indent + 1) (m :: ms)).append_gap (gap_newLine indent))

/-- The elements of a list, each on a line of its own. -/
theorem listed_writeItemLines (indent : Nat) (xs : List Json) :
    Listed true (itemTexts xs) (writeItemLines indent xs) := by
  match xs with
  | [] => exact .nil gap_nil
  | [x] => exact .single (gap_newLine indent) (spells_writeLines indent x)
  | x :: y :: ys =>
    exact .behindComma (gap_newLine indent) (spells_writeLines indent x)
      (listed_writeItemLines indent (y :: ys))

/-- The members of an object, each on a line of its own. -/
theorem listed_writeMemberLines (indent : Nat) (ms : List (String × Json)) :
    Listed true (memberTexts ms) (writeMemberLines indent ms) := by
  match ms with
  | [] => exact .nil gap_nil
  | [m] => exact .single (gap_newLine indent) (memberText_writeMemberLine indent m)
  | m :: n :: ns =>
    exact .behindComma (gap_newLine indent) (memberText_writeMemberLine indent m)
      (listed_writeMemberLines indent (n :: ns))

/-- A member on its line, with a blank behind the colon. -/
theorem memberText_writeMemberLine (indent : Nat) (m : String × Json) :
    memberText m (writeMemberLine indent m) := by
  obtain ⟨key, v⟩ := m
  exact .mk gap_nil gap_space (spells_writeLines indent v)

end

end DocIndex.Json
