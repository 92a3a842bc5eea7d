/-
  PASSING OVER WHAT NOBODY ASKED FOR.

  A member that is no field of a record is passed over.  Its value may be any text of JSON: nested as
  deeply as one likes, with numbers beyond every double and with escapes that stand for no character.
  What has to be shown is that exactly this text is passed over: one character more or less, and every
  later member of the record is lost.

  1. **Grammar** (`ValueText`) — the texts of JSON values, by their spelling alone.  Nothing is said of
     what they stand for, and no limit is set.  The keys of a record are decoded, so they have a grammar
     of their own (`Decodes`), in which surrogates come in pairs.

  2. **Leaves** — a string is passed up to its quote; a number is passed whole if what follows cannot go
     on with it (`Apart`).

  3. **The crux** (`passed_value`) — passing over a value inside some brackets is to go on behind it
     inside the same brackets.  The open brackets are kept in a list and not in the recursion, so the
     induction is on the grammar, and it is stated for all brackets and for all rounds to spare.

  4. **Members** (`reads_extended`) — extra members leave the draft of a record as it is, wherever they
     stand among its fields.

  The statements say how many rounds are used, and not only that there are enough.  `Passed` promises
  at most one for each character and hands the others on untouched, so that what several values use
  can be added up.  A bound on the whole would have to be proved anew at every bracket.
-/
import DocIndex.Proofs.Json.Reading

namespace DocIndex.Json

/-! ## Grammar

  It is the grammar of the format, taken from its definition and not from the reader: where the two
  differ in spelling (digits, escapes, the parts of a number) there is a lemma to say that they
  agree.  Brackets are a parameter, since elements and members are listed alike. -/

/-- The digits in their order, so that the value of a digit is its place. -/
def smallHexDigits : List Char :=
  ['0', '1', '2', '3', '4', '5', '6', '7', '8', '9', 'a', 'b', 'c', 'd', 'e', 'f']

/-- The same with capitals. -/
def largeHexDigits : List Char :=
  ['0', '1', '2', '3', '4', '5', '6', '7', '8', '9', 'A', 'B', 'C', 'D', 'E', 'F']

/-- The value of a hexadecimal digit. -/
def HexDigit (c : Char) (n : Nat) : Prop :=
  smallHexDigits[n]? = some c ∨ largeHexDigits[n]? = some c

/-- The number that four hexadecimal digits spell. -/
inductive HexUnit : List Char → Nat → Prop where
  | mk {a b c d : Char} {w x y z : Nat} (ha : HexDigit a w) (hb : HexDigit b x) (hc : HexDigit c y)
      (hd : HexDigit d z) : HexUnit [a, b, c, d] (((w * 16 + x) * 16 + y) * 16 + z)

/-- The letters behind a backslash, and what they stand for. -/
def letterEscapes : List (Char × Char) :=
  [('"', '"'), ('\\', '\\'), ('/', '/'), ('b', '\x08'), ('f', '\x0c'), ('n', '\n'), ('r', '\r'),
    ('t', '\t')]

/-- What may stand between the quotes of a string. -/
inductive Content : Texts where
  | nil : Content []
  | plain {c : Char} {cs : List Char} (hquote : c ≠ '"') (hslash : c ≠ '\\') (hcontrol : 0x20 ≤ c.toNat)
      (more : Content cs) : Content (c :: cs)
  | letter {e c : Char} {cs : List Char} (known : (e, c) ∈ letterEscapes) (more : Content cs) :
      Content ('\\' :: e :: cs)
  | unit {hex cs : List Char} {n : Nat} (spells : HexUnit hex n) (more : Content cs) :
      Content ('\\' :: 'u' :: (hex ++ cs))

/-- What stands between the quotes of a string, and the text that it stands for. -/
inductive Decodes : List Char → List Char → Prop where
  | nil : Decodes [] []
  | plain {c : Char} {cs ds : List Char} (hquote : c ≠ '"') (hslash : c ≠ '\\')
      (hcontrol : 0x20 ≤ c.toNat) (more : Decodes cs ds) : Decodes (c :: cs) (c :: ds)
  | letter {e c : Char} {cs ds : List Char} (known : (e, c) ∈ letterEscapes) (more : Decodes cs ds) :
      Decodes ('\\' :: e :: cs) (c :: ds)
  /-- a unit that is no half of a pair -/
  | unit {hex cs ds : List Char} {n : Nat} (spells : HexUnit hex n) (single : n < 0xD800 ∨ 0xDFFF < n)
      (more : Decodes cs ds) : Decodes ('\\' :: 'u' :: (hex ++ cs)) (Char.ofNat n :: ds)
  /-- two halves -/
  | pair {hex hex' cs ds : List Char} {high low : Nat} (spells : HexUnit hex high)
      (spells' : HexUnit hex' low) (isHigh : 0xD800 ≤ high ∧ high ≤ 0xDBFF)
      (isLow : 0xDC00 ≤ low ∧ low ≤ 0xDFFF) (more : Decodes cs ds) :
      Decodes ('\\' :: 'u' :: (hex ++ '\\' :: 'u' :: (hex' ++ cs)))
        (Char.ofNat (0x10000 + (high - 0xD800) * 0x400 + (low - 0xDC00)) :: ds)

/-- Nothing but digits. -/
def AllDigits (cs : List Char) : Prop := ∀ c ∈ cs, c.isDigit = true

/-- The digits of a number before its point. -/
inductive WholeText : Texts where
  | zero : WholeText ['0']
  | digits {c : Char} {cs : List Char} (hc : c.isDigit = true) (hzero : c ≠ '0') (more : AllDigits cs) :
      WholeText (c :: cs)

/-- The point of a number and the digits behind it. -/
inductive FractionText : Texts where
  | none : FractionText []
  | digits {c : Char} {cs : List Char} (h : AllDigits (c :: cs)) : FractionText ('.' :: c :: cs)

/-- The exponent of a number. -/
inductive ExponentText : Texts where
  | none : ExponentText []
  | digits {e c : Char} {sign cs : List Char} (he : e = 'e' ∨ e = 'E')
      (hsign : sign = [] ∨ sign = ['+'] ∨ sign = ['-']) (h : AllDigits (c :: cs)) :
      ExponentText (e :: (sign ++ c :: cs))

/-- The texts of numbers. -/
inductive NumberText : Texts where
  | mk {sign whole fraction exponent : List Char} (hsign : sign = [] ∨ sign = ['-'])
      (hwhole : WholeText whole) (hfraction : FractionText fraction)
      (hexponent : ExponentText exponent) : NumberText (sign ++ (whole ++ (fraction ++ exponent)))

/-- The character that opens it. -/
def Bracket.opening : Bracket → Char
  | .list => '['
  | .object => '{'

/-- The character that closes it. -/
def Bracket.closing : Bracket → Char
  | .list => ']'
  | .object => '}'

/-- What stands in front of a value inside a bracket: nothing in a list, a key and a colon in an
    object. -/
inductive Lead : Bracket → Texts where
  | element : Lead .list []
  | member {before key between : List Char} (blank : Gap before) (hkey : Content key)
      (blank' : Gap between) : Lead .object (before ++ '"' :: (key ++ '"' :: (between ++ [':'])))

mutual

/-- The texts of JSON values. -/
inductive ValueText : List Char → Prop where
  | null : ValueText ['n', 'u', 'l', 'l']
  | true : ValueText ['t', 'r', 'u', 'e']
  | false : ValueText ['f', 'a', 'l', 's', 'e']
  | number {text : List Char} (h : NumberText text) : ValueText text
  | string {cs : List Char} (h : Content cs) : ValueText ('"' :: (cs ++ ['"']))
  | empty (b : Bracket) {gap : List Char} (blank : Gap gap) :
      ValueText (b.opening :: (gap ++ [b.closing]))
  | filled {b : Bracket} {body : List Char} (h : EntryTexts b body) :
      ValueText (b.opening :: (body ++ [b.closing]))

/-- The elements of a list or the members of an object, at least one of them. -/
inductive EntryTexts : Bracket → List Char → Prop where
  | last {b : Bracket} {lead before text after : List Char} (hlead : Lead b lead) (blank : Gap before)
      (h : ValueText text) (blank' : Gap after) : EntryTexts b (lead ++ (before ++ (text ++ after)))
  | more {b : Bracket} {lead before text after rest : List Char} (hlead : Lead b lead)
      (blank : Gap before) (h : ValueText text) (blank' : Gap after) (more : EntryTexts b rest) :
      EntryTexts b (lead ++ (before ++ (text ++ (after ++ ',' :: rest))))

end

/-! ## Strings

  Passing over a string and decoding it are two walks.  The first takes any escape, the second only
  those that stand for a character, so each has its own grammar and `Decodes.content` says that the
  second is the narrower one. -/

/-- Characters that need no escape stand for themselves. -/
theorem decodes_plain (cs : List Char)
    (h : (cs.all fun c => c != '"' && c != '\\' && decide (0x20 ≤ c.toNat)) = true) :
    Decodes cs cs := by
  induction cs with
  | nil => exact .nil
  | cons c cs ih =>
    simp only [List.all_cons, Bool.and_eq_true, bne_iff_ne, decide_eq_true_eq] at h
    obtain ⟨⟨⟨hquote, hslash⟩, hcontrol⟩, hmore⟩ := h
    refine .plain hquote hslash hcontrol (ih ?_)
    simpa only [List.all_eq_true, Bool.and_eq_true, bne_iff_ne, decide_eq_true_eq] using hmore

/-- What stands for a text may stand in a string. -/
theorem Decodes.content {cs ds : List Char} (h : Decodes cs ds) : Content cs := by
  induction h with
  | nil => exact .nil
  | plain hquote hslash hcontrol _ ih => exact .plain hquote hslash hcontrol ih
  | letter known _ ih => exact .letter known ih
  | unit spells _ _ ih => exact .unit spells ih
  | pair spells spells' _ _ _ ih => exact .unit spells (.unit spells' ih)

/-- A digit of the grammar is a digit of the reader, with the same value. -/
theorem hexDigit?_of {c : Char} {n : Nat} (h : HexDigit c n) : hexDigit? c = some n := by
  have hsmall : ∀ n < 16, smallHexDigits[n]?.bind hexDigit? = some n := by decide
  have hlarge : ∀ n < 16, largeHexDigits[n]?.bind hexDigit? = some n := by decide
  rcases h with h | h
  · have hvalue := hsmall n (List.getElem?_eq_some_iff.mp h).1
    rwa [h] at hvalue
  · have hvalue := hlarge n (List.getElem?_eq_some_iff.mp h).1
    rwa [h] at hvalue

theorem hexUnit?_of {hex : List Char} {n : Nat} (h : HexUnit hex n) :
    ∃ a b c d, hex = [a, b, c, d] ∧ hexUnit? a b c d = some n := by
  obtain ⟨ha, hb, hc, hd⟩ := h
  refine ⟨_, _, _, _, rfl, ?_⟩
  rw [hexUnit?, hexDigit?_of ha, hexDigit?_of hb, hexDigit?_of hc, hexDigit?_of hd]
  rfl

/-- A letter of the grammar is a letter of the reader, and it is not the `u` in front of four
    digits. -/
theorem letterEscape?_of {e c : Char} (h : (e, c) ∈ letterEscapes) :
    e ≠ 'u' ∧ letterEscape? e = some c := by
  have hall : (letterEscapes.all fun p => p.1 != 'u' && letterEscape? p.1 == some p.2) = true := by
    decide
  have hletter := List.all_eq_true.mp hall (e, c) h
  rwa [Bool.and_eq_true, bne_iff_ne, beq_iff_eq] at hletter

/-- A string is passed up to its quote. -/
theorem passString_content {cs : List Char} (h : Content cs) (rest : List Char) :
    passString (cs ++ '"' :: rest) = .ok rest := by
  induction h with
  | nil => rw [List.nil_append, passString.eq_def]; rfl
  | plain hquote hslash hcontrol _ ih =>
    rw [List.cons_append, passString.eq_def]
    simp only [hquote, hslash, Nat.not_lt.mpr hcontrol, if_false]
    exact ih
  | letter known _ ih =>
    obtain ⟨hu, hletter⟩ := letterEscape?_of known
    rw [List.cons_append, List.cons_append, passString.eq_def]
    simp [hu, hletter, ih]
  | unit spells _ ih =>
    obtain ⟨a, b, c, d, rfl, hunit⟩ := hexUnit?_of spells
    simp only [List.cons_append, List.nil_append]
    rw [passString.eq_def]
    simp [hunit, ih]

/-- A string is decoded up to its quote. -/
theorem scanString_decodes {cs ds : List Char} (h : Decodes cs ds) (rest : List Char) :
    scanString (cs ++ '"' :: rest) = .ok (ds, rest) := by
  induction h with
  | nil => rw [List.nil_append, scanString.eq_def]; rfl
  | plain hquote hslash hcontrol _ ih =>
    rw [List.cons_append, scanString.eq_def]
    simp only [hquote, hslash, Nat.not_lt.mpr hcontrol, if_false, ih]
    rfl
  | letter known _ ih =>
    obtain ⟨hu, hletter⟩ := letterEscape?_of known
    rw [List.cons_append, List.cons_append, scanString_letter hu hletter, ih]
    rfl
  | @unit _ _ _ n spells single _ ih =>
    obtain ⟨a, b, c, d, rfl, hunit⟩ := hexUnit?_of spells
    have hlow : isLowHalf n = false := by simp [isLowHalf]; omega
    have hhigh : isHighHalf n = false := by simp [isHighHalf]; omega
    simp only [List.cons_append, List.nil_append]
    rw [scanString.eq_def]
    simp [hunit, hlow, hhigh, ih, putFront, Except.map]
  | @pair _ _ _ _ high low spells spells' isHigh isLow _ ih =>
    obtain ⟨a, b, c, d, rfl, hunit⟩ := hexUnit?_of spells
    obtain ⟨a', b', c', d', rfl, hunit'⟩ := hexUnit?_of spells'
    have hlow : isLowHalf high = false := by simp [isLowHalf]; omega
    have hhigh : isHighHalf high = true := by simp [isHighHalf]; omega
    have hlow' : isLowHalf low = true := by simp [isLowHalf]; omega
    simp only [List.cons_append, List.nil_append]
    rw [scanString.eq_def]
    simp [hunit, hunit', hlow, hhigh, hlow', ih, putFront, Except.map, pairedChar]

/-! ## Numbers

  A number has no end of its own.  Each of its parts ends where the next one begins, so the lemma
  about each part has a condition on what follows, and from the exponent to the whole part each
  condition is derived from the one behind it. -/

/-- The four things that what follows a number must not begin with, one by one. -/
theorem Apart.head {rest : List Char} (apart : Apart rest) {c : Char} (hc : rest.head? = some c) :
    c.isDigit = false ∧ c ≠ '.' ∧ c ≠ 'e' ∧ c ≠ 'E' := by
  have h := apart c hc
  simp only [Bool.or_eq_false_iff, beq_eq_false_iff_ne] at h
  obtain ⟨⟨⟨hdigit, hpoint⟩, he⟩, hE⟩ := h
  exact ⟨hdigit, hpoint, he, hE⟩

theorem scanDigits_append {c : Char} {cs rest : List Char} (h : AllDigits (c :: cs))
    (hrest : ∀ d, rest.head? = some d → d.isDigit = false) :
    scanDigits (c :: cs ++ rest) = .ok (c :: cs, rest) := by
  -- neither walk goes into what follows
  have htake : rest.takeWhile Char.isDigit = [] := by
    cases rest with
    | nil => rfl
    | cons d rest => simp [hrest d rfl]
  have hdrop : rest.dropWhile Char.isDigit = rest := by
    cases rest with
    | nil => rfl
    | cons d rest => simp [hrest d rfl]
  rw [scanDigits, List.takeWhile_append_of_pos h, List.dropWhile_append_of_pos h, htake, hdrop,
    List.append_nil]

/-- The whole part: a zero alone, or digits that begin with another one. -/
theorem scanWhole_append {whole rest : List Char} (h : WholeText whole)
    (hrest : ∀ d, rest.head? = some d → d.isDigit = false) :
    scanWhole (whole ++ rest) = .ok (whole, rest) := by
  cases h with
  | zero =>
    cases rest with
    | nil => rfl
    | cons d rest => simp [scanWhole, hrest d rfl]
  | @digits c cs hc hzero more =>
    have hall : AllDigits (c :: cs) := List.forall_mem_cons.mpr ⟨hc, more⟩
    rw [← scanDigits_append hall hrest, List.cons_append, scanWhole]
    intro rest' heq
    exact hzero (List.cons.inj heq).1

/-- The fraction, if there is one; without one, no point may follow. -/
theorem scanFraction_append {fraction rest : List Char} (h : FractionText fraction)
    (hrest : ∀ d, rest.head? = some d → d.isDigit = false ∧ d ≠ '.') :
    ∃ found, scanFraction (fraction ++ rest) = .ok (found, rest) := by
  cases h with
  | none =>
    refine ⟨none, ?_⟩
    rw [List.nil_append, scanFraction]
    rintro rest' rfl
    exact (hrest '.' rfl).2 rfl
  | @digits c cs h =>
    refine ⟨some (c :: cs), ?_⟩
    show (scanDigits (c :: cs ++ rest)).map _ = _
    rw [scanDigits_append h fun d hd => (hrest d hd).1]
    rfl

/-- A digit is no sign. -/
theorem not_sign_of_digit {c sign : Char} {cs : List Char} (hc : c.isDigit = true)
    (hsign : sign.isDigit = false) (rest : List Char) : ¬ c :: cs = sign :: rest := by
  intro heq
  rw [(List.cons.inj heq).1, hsign] at hc
  cases hc

/-- The exponent, if there is one; without one, neither `e` nor `E` may follow. -/
theorem scanExponent_append {exponent rest : List Char} (h : ExponentText exponent)
    (apart : Apart rest) : ∃ found, scanExponent (exponent ++ rest) = .ok (found, rest) := by
  cases h with
  | none =>
    refine ⟨none, ?_⟩
    cases rest with
    | nil => rfl
    | cons d rest =>
      obtain ⟨-, -, he, hE⟩ := apart.head rfl
      rw [List.nil_append, scanExponent.eq_def]
      exact if_neg (not_or.mpr ⟨he, hE⟩)
  | @digits e c sign cs he hsign h =>
    have hdigits := scanDigits_append h fun d hd => (apart.head hd).1
    rcases hsign with rfl | rfl | rfl
    · -- no sign: the digit must not be taken for one
      have hc : c.isDigit = true := h c List.mem_cons_self
      refine ⟨some (false, c :: cs), ?_⟩
      rw [List.nil_append, List.cons_append, List.cons_append, scanExponent, if_pos he,
        ← List.cons_append, hdigits]
      · rfl
      · exact not_sign_of_digit hc (by decide)
      · exact not_sign_of_digit hc (by decide)
    · refine ⟨some (false, c :: cs), ?_⟩
      show (if e = 'e' ∨ e = 'E' then (scanDigits (c :: cs ++ rest)).map _ else _) = _
      rw [if_pos he, hdigits]
      rfl
    · refine ⟨some (true, c :: cs), ?_⟩
      show (if e = 'e' ∨ e = 'E' then (scanDigits (c :: cs ++ rest)).map _ else _) = _
      rw [if_pos he, hdigits]
      rfl

/-- What follows the fraction goes on neither with its digits nor with a point. -/
theorem ExponentText.head {exponent rest : List Char} (h : ExponentText exponent) (apart : Apart rest)
    (d : Char) (hd : (exponent ++ rest).head? = some d) : d.isDigit = false ∧ d ≠ '.' := by
  cases h with
  | none =>
    obtain ⟨hdigit, hpoint, -⟩ := apart.head hd
    exact ⟨hdigit, hpoint⟩
  | digits he _ _ =>
    cases hd
    rcases he with rfl | rfl <;> decide

/-- What follows the whole part does not go on with its digits. -/
theorem FractionText.head {fraction rest : List Char} (h : FractionText fraction)
    (hrest : ∀ d, rest.head? = some d → d.isDigit = false ∧ d ≠ '.') (d : Char)
    (hd : (fraction ++ rest).head? = some d) : d.isDigit = false := by
  cases h with
  | none => exact (hrest d hd).1
  | digits _ =>
    cases hd
    decide

theorem WholeText.head {whole : List Char} (h : WholeText whole) :
    ∃ c cs, whole = c :: cs ∧ c.isDigit = true := by
  cases h with
  | zero => exact ⟨_, _, rfl, by decide⟩
  | digits hc _ _ => exact ⟨_, _, rfl, hc⟩

/-- A number is passed whole if what follows cannot go on with it. -/
theorem passNumber_append {text rest : List Char} (h : NumberText text) (apart : Apart rest) :
    passNumber (text ++ rest) = .ok rest := by
  obtain @⟨sign, whole, fraction, exponent, hsign, hwhole, hfraction, hexponent⟩ := h
  -- what follows each part, from the last one to the first
  have hbehind := hexponent.head apart
  have hscanWhole := scanWhole_append hwhole (hfraction.head hbehind)
  obtain ⟨found, hscanFraction⟩ := scanFraction_append hfraction hbehind
  obtain ⟨found', hscanExponent⟩ := scanExponent_append hexponent apart
  have hnumeral : ∃ numeral, scanNumeral (sign ++ (whole ++ (fraction ++ exponent)) ++ rest) =
      .ok (numeral, rest) := by
    simp only [List.append_assoc]
    -- without a sign, and with one
    rcases hsign with rfl | rfl
    · refine ⟨⟨false, whole, found, found'⟩, ?_⟩
      obtain ⟨c, cs, rfl, hc⟩ := hwhole.head
      rw [List.nil_append, List.cons_append, scanNumeral, ← List.cons_append]
      · simp only [bind, Except.bind, hscanWhole, hscanFraction, hscanExponent]
        rfl
      · exact not_sign_of_digit hc (by decide)
    · refine ⟨⟨true, whole, found, found'⟩, ?_⟩
      rw [List.cons_append, List.nil_append, scanNumeral]
      simp only [bind, Except.bind, hscanWhole, hscanFraction, hscanExponent]
      rfl
  obtain ⟨numeral, hnumeral⟩ := hnumeral
  rw [passNumber, hnumeral]

/-! ## Values

  A record may hold values nested more deeply than any stack, so the reader keeps its open brackets
  in a list.  It does not return from a value: it resumes inside the innermost bracket.  The
  statements therefore say what is done next and not what is found. -/

/-- Goes on with what comes after a value, for so many rounds. -/
def Onward.pass (rounds : Nat) : Onward → Except Fault (List Char)
  | .done rest => .ok rest
  | .value brackets rest => passOpen rounds brackets rest

/-- One round looks at the head of a value and goes on from there. -/
theorem passOpen_succ (rounds : Nat) (brackets : List Bracket) (cs : List Char) :
    passOpen (rounds + 1) brackets cs = passHead brackets cs >>= Onward.pass rounds := by
  rw [passOpen]
  cases passHead brackets cs with
  | error fault => rfl
  | ok onward => cases onward <;> rfl

/-- Passes over what stands in front of a value inside a bracket. -/
def passLead : Bracket → List Char → Except Fault (List Char)
  | .list, cs => .ok cs
  | .object, cs => passKey cs

/-- What stands in front of a value inside a bracket is passed over.  The key of an object need not
    stand for anything. -/
theorem passLead_append {b : Bracket} {lead : List Char} (h : Lead b lead) (rest : List Char) :
    passLead b (lead ++ rest) = .ok rest := by
  cases h with
  | element => rfl
  | member blank hkey blank' =>
    simp only [List.append_assoc, List.cons_append, List.nil_append]
    rw [passLead, passKey, spaced_gap blank (by decide)]
    simp only [ne_eq, not_true_eq_false, if_false, bind, Except.bind, passString_content hkey,
      spaced_gap blank' (show isSpacing ':' = false by decide), if_true]

variable {b : Bracket} {brackets : List Bracket} {gap : List Char}

/-- Behind a value a comma leads on to the next one in the same bracket. -/
theorem resume_comma (blank : Gap gap) (rest : List Char) :
    resume (b :: brackets) (gap ++ ',' :: rest) = (passLead b rest).map (.value (b :: brackets)) := by
  cases b with
  | list =>
    rw [resume, spaced_gap blank (by decide)]
    rfl
  | object =>
    rw [resume, spaced_gap blank (by decide)]
    rfl

/-- A closing bracket leads on behind the value that it ends, inside the brackets around it. -/
theorem resume_closing (blank : Gap gap) (rest : List Char) :
    resume (b :: brackets) (gap ++ b.closing :: rest) = resume brackets rest := by
  cases b with
  | list =>
    rw [resume, Bracket.closing, spaced_gap blank (by decide)]
    rfl
  | object =>
    rw [resume, Bracket.closing, spaced_gap blank (by decide)]
    rfl

/-- Empty brackets are passed over in one go. -/
theorem passHead_empty (blank : Gap gap) {gap' : List Char} (blank' : Gap gap') (rest : List Char) :
    passHead brackets (gap ++ b.opening :: (gap' ++ b.closing :: rest)) = resume brackets rest := by
  cases b with
  | list =>
    rw [passHead, Bracket.opening, spaced_gap blank (by decide)]
    simp only [if_true, Bracket.closing, spaced_gap blank' (show isSpacing ']' = false by decide)]
  | object =>
    rw [passHead, Bracket.opening, spaced_gap blank (by decide)]
    simp only [Char.reduceEq, if_false, if_true, Bracket.closing,
      spaced_gap blank' (show isSpacing '}' = false by decide)]

/-- A bracket is opened if something stands in it. -/
theorem passHead_filled (blank : Gap gap) {gap' : List Char} (blank' : Gap gap') {c : Char}
    (hspacing : isSpacing c = false) (hclosing : c ≠ b.closing) (rest : List Char) :
    passHead brackets (gap ++ b.opening :: (gap' ++ c :: rest)) =
      (passLead b (gap' ++ c :: rest)).map (.value (b :: brackets)) := by
  cases b with
  | list =>
    rw [passHead, Bracket.opening, spaced_gap blank (by decide)]
    simp only [if_true, spaced_gap blank' hspacing]
    exact if_neg hclosing
  | object =>
    rw [passHead, Bracket.opening, spaced_gap blank (by decide)]
    simp only [Char.reduceEq, if_false, if_true, spaced_gap blank' hspacing]
    exact if_neg hclosing

/-- A number begins with a digit or a minus sign. -/
theorem NumberText.head {text : List Char} (h : NumberText text) :
    ∃ c cs, text = c :: cs ∧ (c = '-' ∨ c.isDigit = true) := by
  obtain ⟨hsign, hwhole, -, -⟩ := h
  obtain ⟨c, cs, rfl, hc⟩ := hwhole.head
  rcases hsign with rfl | rfl
  · exact ⟨c, _, rfl, .inr hc⟩
  · exact ⟨'-', _, rfl, .inl rfl⟩

/-- What begins a number begins nothing else. -/
theorem ne_of_numeral {c : Char} (hc : c = '-' ∨ c.isDigit = true) (other : Char)
    (hother : (other == '-' || other.isDigit) = false) : c ≠ other := by
  rintro rfl
  rw [Bool.or_eq_false_iff, beq_eq_false_iff_ne] at hother
  rcases hc with hc | hc
  · exact hother.1 hc
  · rw [hother.2] at hc
    cases hc

theorem isSpacing_of_numeral {c : Char} (hc : c = '-' ∨ c.isDigit = true) : isSpacing c = false := by
  simp [isSpacing, ne_of_numeral hc ' ' (by decide), ne_of_numeral hc '\t' (by decide),
    ne_of_numeral hc '\n' (by decide), ne_of_numeral hc '\r' (by decide)]

/-- A number is passed over in one go. -/
theorem passHead_number {text : List Char} (h : NumberText text) (blank : Gap gap) {rest : List Char}
    (apart : Apart rest) : passHead brackets (gap ++ (text ++ rest)) = resume brackets rest := by
  have hpass := passNumber_append h apart
  obtain ⟨c, cs, rfl, hc⟩ := h.head
  rw [List.cons_append] at hpass ⊢
  rw [passHead, spaced_gap blank (isSpacing_of_numeral hc)]
  simp only [ne_of_numeral hc '[' (by decide), ne_of_numeral hc '{' (by decide),
    ne_of_numeral hc 'n' (by decide), ne_of_numeral hc 't' (by decide),
    ne_of_numeral hc 'f' (by decide), ne_of_numeral hc '"' (by decide), if_false, hc, if_true, hpass]
  rfl

theorem passHead_string {cs : List Char} (h : Content cs) (blank : Gap gap) (rest : List Char) :
    passHead brackets (gap ++ ('"' :: (cs ++ ['"']) ++ rest)) = resume brackets rest := by
  rw [List.cons_append, List.append_assoc, List.singleton_append, passHead,
    spaced_gap blank (by decide)]
  simp only [Char.reduceEq, if_false, if_true, passString_content h]
  rfl

theorem passHead_literal {c : Char} {word : List Char}
    (h : (c, word) ∈ [('n', ['u', 'l', 'l']), ('t', ['r', 'u', 'e']), ('f', ['a', 'l', 's', 'e'])])
    (blank : Gap gap) (rest : List Char) :
    passHead brackets (gap ++ (c :: word ++ rest)) = resume brackets rest := by
  have hspacing : isSpacing c = false := by
    simp only [List.mem_cons, Prod.mk.injEq, List.not_mem_nil, or_false] at h
    rcases h with ⟨rfl, -⟩ | ⟨rfl, -⟩ | ⟨rfl, -⟩ <;> decide
  simp only [List.mem_cons, Prod.mk.injEq, List.not_mem_nil, or_false] at h
  rw [List.cons_append, passHead, spaced_gap blank hspacing]
  rcases h with ⟨rfl, rfl⟩ | ⟨rfl, rfl⟩ | ⟨rfl, rfl⟩ <;> rfl

/-- The text of a value begins with a character that is no spacing and closes no list. -/
theorem ValueText.solid {text : List Char} (h : ValueText text) : Solid text := by
  cases h with
  | null => exact ⟨_, _, rfl, by decide, by decide⟩
  | true => exact ⟨_, _, rfl, by decide, by decide⟩
  | false => exact ⟨_, _, rfl, by decide, by decide⟩
  | number h =>
    obtain ⟨c, cs, rfl, hc⟩ := h.head
    exact ⟨c, cs, rfl, isSpacing_of_numeral hc, ne_of_numeral hc ']' (by decide)⟩
  | string h => exact ⟨_, _, rfl, by decide, by decide⟩
  | empty b blank => cases b <;> exact ⟨_, _, rfl, by decide, by decide⟩
  | @filled b _ h => cases b <;> exact ⟨_, _, rfl, by decide, by decide⟩

/-- What stands in a bracket does not begin with its end. -/
theorem EntryTexts.head {body : List Char} (h : EntryTexts b body) :
    ∃ gap c cs, body = gap ++ c :: cs ∧ Gap gap ∧ isSpacing c = false ∧ c ≠ b.closing := by
  -- the last entry and any other one begin alike
  obtain ⟨lead, before, text, behind, rfl, hlead, blank, hvalue⟩ : ∃ lead before text behind,
      body = lead ++ (before ++ (text ++ behind)) ∧ Lead b lead ∧ Gap before ∧ ValueText text := by
    cases h with
    | last hlead blank h blank' => exact ⟨_, _, _, _, rfl, hlead, blank, h⟩
    | more hlead blank h blank' more => exact ⟨_, _, _, _, rfl, hlead, blank, h⟩
  cases hlead with
  -- in a list the value comes first, in an object the quote of the key
  | element =>
    obtain ⟨c, cs, rfl, hspacing, hclosing⟩ := hvalue.solid
    exact ⟨before, c, cs ++ behind, rfl, blank, hspacing, hclosing⟩
  | @member before' key between blank' hkey blank'' =>
    refine ⟨before', '"', key ++ '"' :: (between ++ [':']) ++ (before ++ (text ++ behind)), ?_, blank',
      by decide, by decide⟩
    rw [List.append_assoc, List.cons_append]

/-- To pass over the text inside some brackets is to go on behind it inside the same brackets.  It takes
    no more rounds than the text has characters. -/
def Passed (text : List Char) : Prop :=
  ∃ used ≤ text.length, ∀ rounds brackets gap rest, Gap gap → Apart rest →
    passOpen (rounds + used) brackets (gap ++ (text ++ rest)) =
      resume brackets rest >>= Onward.pass rounds

/-- What is passed over in one go takes one round. -/
theorem passed_of_head {c : Char} {cs : List Char}
    (h : ∀ brackets gap rest, Gap gap → Apart rest →
      passHead brackets (gap ++ (c :: cs ++ rest)) = resume brackets rest) : Passed (c :: cs) := by
  refine ⟨1, Nat.succ_pos _, fun rounds brackets gap rest blank apart => ?_⟩
  rw [passOpen_succ, h brackets gap rest blank apart]

/-- A bracket that was opened calls for what stands in front of a value, and for the value. -/
theorem map_value_bind (rounds : Nat) (r : Except Fault (List Char)) :
    (r.map (.value (b :: brackets)) >>= Onward.pass rounds) =
      r >>= passOpen rounds (b :: brackets) := by
  cases r <;> rfl

mutual

/-- **The crux**: every text of a value is passed over. -/
theorem passed_value {text : List Char} (h : ValueText text) : Passed text := by
  match h with
  | .null => exact passed_of_head fun _ _ rest blank _ => passHead_literal (by simp) blank rest
  | .true => exact passed_of_head fun _ _ rest blank _ => passHead_literal (by simp) blank rest
  | .false => exact passed_of_head fun _ _ rest blank _ => passHead_literal (by simp) blank rest
  | .number h =>
    obtain ⟨c, cs, rfl, -⟩ := h.head
    exact passed_of_head fun _ _ rest blank apart => passHead_number h blank apart
  | .string h => exact passed_of_head fun _ _ rest blank _ => passHead_string h blank rest
  | .empty b blank' =>
    refine passed_of_head fun brackets gap rest blank _ => ?_
    rw [List.cons_append, List.append_assoc, List.singleton_append]
    exact passHead_empty blank blank' rest
  -- one round for the bracket; the others are those of what stands in it
  | @ValueText.filled b body h =>
    obtain ⟨used, hused, hpass⟩ := passed_entries h
    obtain ⟨gap', c, cs, hbody, blank', hspacing, hclosing⟩ := h.head
    refine ⟨used + 1, ?_, fun rounds brackets gap rest blank _ => ?_⟩
    · rw [List.length_cons, List.length_append]
      omega
    · have hhead : passHead brackets (gap ++ b.opening :: (body ++ b.closing :: rest)) =
          (passLead b (body ++ b.closing :: rest)).map (.value (b :: brackets)) := by
        rw [hbody, List.append_assoc, List.cons_append]
        exact passHead_filled blank blank' hspacing hclosing _
      rw [List.cons_append, List.append_assoc, List.singleton_append, ← Nat.add_assoc, passOpen_succ,
        hhead, map_value_bind, hpass]

/-- What stands in a bracket is passed over up to its end, and the bracket is closed. -/
theorem passed_entries {b : Bracket} {body : List Char} (h : EntryTexts b body) :
    ∃ used ≤ body.length, ∀ rounds brackets rest,
      (passLead b (body ++ b.closing :: rest) >>= passOpen (rounds + used) (b :: brackets)) =
        resume brackets rest >>= Onward.pass rounds := by
  match h with
  | @EntryTexts.last b lead before text after hlead blank h blank' =>
    obtain ⟨used, hused, hpass⟩ := passed_value h
    refine ⟨used, ?_, fun rounds brackets rest => ?_⟩
    · simp only [List.length_append]
      omega
    · -- behind the last value the bracket is closed
      have hapart : Apart (after ++ b.closing :: rest) :=
        apart_gap blank' (by cases b <;> decide) rest
      simp only [List.append_assoc]
      rw [passLead_append hlead]
      show passOpen (rounds + used) (b :: brackets) _ = _
      rw [hpass rounds _ _ _ blank hapart, resume_closing blank']
  | @EntryTexts.more b lead before text after others hlead blank h blank' more =>
    obtain ⟨used, hused, hpass⟩ := passed_value h
    obtain ⟨used', hused', hpass'⟩ := passed_entries more
    refine ⟨used' + used, ?_, fun rounds brackets rest => ?_⟩
    · simp only [List.length_append, List.length_cons]
      omega
    · -- behind any other value there is a comma, and the rest goes on by induction
      have hapart : Apart (after ++ ',' :: (others ++ b.closing :: rest)) :=
        apart_gap blank' (by decide) _
      simp only [List.append_assoc, List.cons_append]
      rw [passLead_append hlead]
      show passOpen (rounds + (used' + used)) (b :: brackets) _ = _
      rw [← Nat.add_assoc, hpass _ _ _ _ blank hapart, resume_comma blank', map_value_bind, hpass']

end

/-- A value is passed over, with more rounds than its text has characters. -/
theorem passValue_append {text : List Char} (h : ValueText text) {rounds : Nat}
    (hlength : text.length < rounds) {gap : List Char} (blank : Gap gap) {rest : List Char}
    (apart : Apart rest) : passValue rounds (gap ++ (text ++ rest)) = .ok rest := by
  obtain ⟨used, hused, hpass⟩ := passed_value h
  obtain ⟨n, rfl⟩ : ∃ n, rounds = n + used := ⟨rounds - used, by omega⟩
  rw [passValue, hpass n [] gap rest blank apart]
  rfl

/-! ## Members

  Back at the reader of records: its loop over members does not notice what it passes over. -/

/-- A member that is no field: a key that stands for a name of its own, and any value. -/
inductive Extra (fields : List String) : Texts where
  | mk {key name before after text : List Char} (decodes : Decodes key name)
      (other : String.ofList name ∉ fields) (blank : Gap before) (blank' : Gap after)
      (value : ValueText text) :
      Extra fields ('"' :: (key ++ '"' :: (before ++ ':' :: (after ++ text))))

/-- An extra member leaves the draft as it is. -/
theorem takes_extra {δ α : Type} {l : Layout δ α} {rounds : Nat} (draft : δ) :
    Takes rounds (l.member rounds) draft (Extra l.fields) draft := by
  rintro _ @⟨key, name, before, after, text, decodes, other, blank, blank', value⟩ hlength
  refine ⟨_, rfl, fun rest apart => ?_⟩
  simp only [List.length_append, List.length_cons] at hlength
  have hother : ¬ l.fields.contains (String.ofList name) = true := by
    rw [List.contains_iff_mem]
    exact other
  -- there are rounds enough, since the value is a part of the text
  have hpass : passValue rounds (after ++ (text ++ rest)) = .ok rest :=
    passValue_append value (by omega) blank' apart
  simp only [List.append_assoc, List.cons_append, scanString_decodes decodes, bind, Except.bind]
  rw [Layout.member, if_neg hother]
  simp only [bind, Except.bind, colon_gap blank, hpass]
  rfl

/-- The kinds of texts of the members of an object to which members of the kind `extra` were added. -/
inductive Extended (extra : Texts) : List Texts → List Texts → Prop where
  | nil : Extended extra [] []
  | kept {Ts Us : List Texts} (T : Texts) (more : Extended extra Ts Us) :
      Extended extra (T :: Ts) (T :: Us)
  | added {Ts Us : List Texts} (more : Extended extra Ts Us) : Extended extra Ts (extra :: Us)

theorem extended_self (extra : Texts) (Ts : List Texts) : Extended extra Ts Ts := by
  induction Ts with
  | nil => exact .nil
  | cons T Ts ih => exact .kept T ih

/-- Wherever extra members stand, the draft of a record comes out the same. -/
theorem Taken.extended {δ α : Type} {l : Layout δ α} {rounds : Nat} {draft last : δ}
    {Ts Us : List Texts} (h : Taken rounds (l.member rounds) draft Ts last)
    (extended : Extended (Extra l.fields) Ts Us) : Taken rounds (l.member rounds) draft Us last := by
  induction extended generalizing draft with
  | nil => exact h
  | kept T _ ih =>
    cases h with
    | cons takes more => exact .cons takes (ih more)
  | added _ ih => exact .cons (takes_extra draft) (ih h)

/-- The texts of an object with members of the given kinds in their order, to which any number of
    members was added, each anywhere and none of them one of the fields. -/
def ExtendedObject (fields : List String) (Ts : List Texts) : Texts :=
  fun text => ∃ Us, Extended (Extra fields) Ts Us ∧ Enclosed '{' '}' Us text

/-- A record is read from an object with its fields and any others. -/
theorem reads_extended {δ α : Type} {l : Layout δ α} {rounds : Nat} {Ts : List Texts} {a : α}
    (name : String) (draft : δ) (h : Gathers rounds (l.member rounds) l.blank Ts draft)
    (hclose : l.close draft = .ok a) :
    Reads rounds (record name rounds (some l)) (ExtendedObject l.fields Ts) a := by
  refine ⟨?_, ?_⟩
  · rintro text ⟨Us, -, htext⟩
    exact solid_object text htext
  · rintro text ⟨Us, extended, htext⟩
    exact ((h.taken.extended extended).record name hclose).found text htext

end DocIndex.Json
