/-
  THE LEAVES of a JSON text: blanks, literals, strings and numbers.

  Every scanner takes the text still to be read and gives what it found with the text after it.
  Strings and numbers come in two forms.  Where their content is wanted they are decoded, and an
  unpaired surrogate or a number beyond the doubles is a fault; where a value is only passed over,
  `passString` and `passNumber` check the spelling and nothing else.

  A number with a fraction or an exponent, or too large for 64 bits, is a double.  Its value is
  built as the digits that fit in 64 bits, read as an integer, times or divided by a power of ten;
  each step rounds to the nearest double.
-/
import DocIndex.Json.Fault

namespace DocIndex.Json

/-- What was read, with the text after it. -/
abbrev After (α : Type) := α × List Char

/-- Is the character one of the four that may stand between the parts of a text? -/
def isSpacing (c : Char) : Bool := c = ' ' || c = '\t' || c = '\n' || c = '\r'

/-- The text after the spacing it starts with. -/
def spaced (cs : List Char) : List Char := cs.dropWhile isSpacing

/-- Passes over the rest of a literal. -/
def passLiteral : List Char → List Char → Except Fault (List Char)
  | [], cs => .ok cs
  | _ :: _, [] => .error (.ended .value)
  | w :: ws, c :: cs => if w = c then passLiteral ws cs else .error .brokenLiteral

/-! ## Strings -/

/-- The value of a hexadecimal digit. -/
def hexDigit? (c : Char) : Option Nat :=
  if '0' ≤ c ∧ c ≤ '9' then some (c.toNat - 48)
  else if 'a' ≤ c ∧ c ≤ 'f' then some (c.toNat - 87)
  else if 'A' ≤ c ∧ c ≤ 'F' then some (c.toNat - 55)
  else none

/-- The number that four hexadecimal digits spell. -/
def hexUnit? (a b c d : Char) : Option Nat := do
  return (((← hexDigit? a) * 16 + (← hexDigit? b)) * 16 + (← hexDigit? c)) * 16 + (← hexDigit? d)

/-- The fault of an escape with fewer than four characters left: the text has ended if fewer
    than four bytes are left, and the escape is wrong otherwise. -/
def shortEscape (cs : List Char) : Fault :=
  if cs.foldr (fun c n => c.utf8Size + n) 0 < 4 then .ended .string else .badEscape

/-- The character that a one-letter escape stands for. -/
def letterEscape? (c : Char) : Option Char :=
  if c = '"' then some '"'
  else if c = '\\' then some '\\'
  else if c = '/' then some '/'
  else if c = 'b' then some '\x08'
  else if c = 'f' then some '\x0c'
  else if c = 'n' then some '\n'
  else if c = 'r' then some '\r'
  else if c = 't' then some '\t'
  else none

/-- Is the unit the first half of a surrogate pair? -/
def isHighHalf (n : Nat) : Bool := 0xD800 ≤ n && n ≤ 0xDBFF

/-- Is the unit the second half of a surrogate pair? -/
def isLowHalf (n : Nat) : Bool := 0xDC00 ≤ n && n ≤ 0xDFFF

/-- The character of a surrogate pair. -/
def pairedChar (high low : Nat) : Char :=
  Char.ofNat (0x10000 + (high - 0xD800) * 0x400 + (low - 0xDC00))

/-- A character in front of what was read. -/
def putFront (c : Char) (r : Except Fault (After (List Char))) : Except Fault (After (List Char)) :=
  r.map fun (s, rest) => (c :: s, rest)

/-- The content of a string, read after its opening quote up to and with its closing quote. -/
def scanString : List Char → Except Fault (After (List Char))
  | [] => .error (.ended .string)
  | c :: rest =>
    if c = '"' then .ok ([], rest)
    else if c = '\\' then
      match rest with
      | [] => .error (.ended .string)
      | e :: rest =>
        if e = 'u' then
          match rest with
          | h1 :: h2 :: h3 :: h4 :: rest =>
            match hexUnit? h1 h2 h3 h4 with
            | none => .error .badEscape
            | some unit =>
              if isLowHalf unit then .error .loneSurrogate
              else if isHighHalf unit then
                match rest with
                | [] => .error (.ended .string)
                | b :: rest =>
                  if b ≠ '\\' then .error .brokenSurrogate
                  else match rest with
                    | [] => .error (.ended .string)
                    | u :: rest =>
                      if u ≠ 'u' then .error .brokenSurrogate
                      else match rest with
                        | l1 :: l2 :: l3 :: l4 :: rest =>
                          match hexUnit? l1 l2 l3 l4 with
                          | none => .error .badEscape
                          | some low =>
                            if isLowHalf low then putFront (pairedChar unit low) (scanString rest)
                            else .error .loneSurrogate
                        | short => .error (shortEscape short)
              else putFront (Char.ofNat unit) (scanString rest)
          | short => .error (shortEscape short)
        else match letterEscape? e with
          | some x => putFront x (scanString rest)
          | none => .error .badEscape
    else if c.toNat < 0x20 then .error .controlCharacter
    else putFront c (scanString rest)

/-- Passes over a string, after its opening quote. -/
def passString : List Char → Except Fault (List Char)
  | [] => .error (.ended .string)
  | c :: rest =>
    if c = '"' then .ok rest
    else if c = '\\' then
      match rest with
      | [] => .error (.ended .string)
      | e :: rest =>
        if e = 'u' then
          match rest with
          | h1 :: h2 :: h3 :: h4 :: rest =>
            if (hexUnit? h1 h2 h3 h4).isSome then passString rest else .error .badEscape
          | short => .error (shortEscape short)
        else if (letterEscape? e).isSome then passString rest
        else .error .badEscape
    else if c.toNat < 0x20 then .error .controlCharacter
    else passString rest

/-! ## Numbers -/

/-- The parts of a number as written. -/
structure Numeral where
  negative : Bool
  whole : List Char
  fraction : Option (List Char)
  exponent : Option (Bool × List Char)
  deriving Repr, DecidableEq

/-- Why a numeral is broken: the text ended inside it, or another character stood in it. -/
inductive BrokenNumeral where
  | atEnd
  | inside
  deriving Repr, DecidableEq

/-- The digits that a text starts with, at least one, and the text after them. -/
def scanDigits (cs : List Char) : Except BrokenNumeral (List Char × List Char) :=
  match cs.takeWhile Char.isDigit with
  | [] => .error (if cs.isEmpty then .atEnd else .inside)
  | ds => .ok (ds, cs.dropWhile Char.isDigit)

/-- The digits before the point: a zero stands alone. -/
def scanWhole (cs : List Char) : Except BrokenNumeral (List Char × List Char) :=
  match cs with
  | '0' :: rest => if (rest.head?.any Char.isDigit) then .error .inside else .ok (['0'], rest)
  | _ => scanDigits cs

/-- The point and the digits after it, if there is a point. -/
def scanFraction : List Char → Except BrokenNumeral (Option (List Char) × List Char)
  | '.' :: rest => (scanDigits rest).map fun (ds, rest) => (some ds, rest)
  | cs => .ok (none, cs)

/-- The exponent, if there is one; `true` for a negative one. -/
def scanExponent : List Char → Except BrokenNumeral (Option (Bool × List Char) × List Char)
  | c :: rest =>
    if c = 'e' ∨ c = 'E' then
      match rest with
      | '+' :: rest => (scanDigits rest).map fun (ds, rest) => (some (false, ds), rest)
      | '-' :: rest => (scanDigits rest).map fun (ds, rest) => (some (true, ds), rest)
      | _ => (scanDigits rest).map fun (ds, rest) => (some (false, ds), rest)
    else .ok (none, c :: rest)
  | [] => .ok (none, [])

/-- A whole numeral. -/
def scanNumeral (cs : List Char) : Except BrokenNumeral (Numeral × List Char) := do
  let (negative, cs) := match cs with
    | '-' :: rest => (true, rest)
    | _ => (false, cs)
  let (whole, cs) ← scanWhole cs
  let (fraction, cs) ← scanFraction cs
  let (exponent, cs) ← scanExponent cs
  return (⟨negative, whole, fraction, exponent⟩, cs)

/-- The value of a decimal digit. -/
def digitValue (c : Char) : Nat := c.toNat - 48

/-- Digits gathered into a significand of at most 64 bits. -/
structure Significand where
  value : Nat
  /-- digits of the whole part that no longer fitted -/
  dropped : Nat
  /-- digits of the fraction that were gathered -/
  places : Nat
  /-- no further digit is gathered -/
  full : Bool

/-- The largest significand. -/
def Significand.limit : Nat := Nat.pow 2 64 - 1

/-- Gathers a digit of the whole part; after the first that does not fit, the others only count. -/
def Significand.addWhole (s : Significand) (c : Char) : Significand :=
  let next := s.value * 10 + digitValue c
  if s.full ∨ limit < next then { s with dropped := s.dropped + 1, full := true }
  else { s with value := next }

/-- Gathers a digit of the fraction; after the first that does not fit, the others are lost. -/
def Significand.addPlace (s : Significand) (c : Char) : Significand :=
  let next := s.value * 10 + digitValue c
  if s.full ∨ limit < next then { s with full := true }
  else { s with value := next, places := s.places + 1 }

/-- The double nearest to a power of ten. -/
def powerOfTen (n : Nat) : Float := Float.ofScientific 1 false n

/-- `x` divided by `10 ^ n`, in steps that a double can express. -/
def divideByPower (x : Float) (n : Nat) : Float :=
  if n ≤ 308 then x / powerOfTen n
  else if x == 0 then x
  else divideByPower (x / powerOfTen 308) (n - 308)
termination_by n

/-- The double `value · 10 ^ exponent`, unless it is too large. -/
def scaledDouble (negative : Bool) (value : Nat) (exponent : Int) : Except Fault Float :=
  let x := value.toUInt64.toFloat
  let signed (y : Float) : Float := if negative then -y else y
  if exponent < 0 then .ok (signed (divideByPower x exponent.natAbs))
  else if exponent ≤ 308 then
    let y := x * powerOfTen exponent.natAbs
    if y.isInf then .error .numberTooLarge else .ok (signed y)
  else if value = 0 then .ok (signed x)
  else .error .numberTooLarge

/-- The largest exponent that is read as one. -/
def exponentLimit : Nat := Nat.pow 2 31 - 1

/-- The number that a numeral stands for. -/
def Numeral.number (n : Numeral) : Except Fault Number := do
  let s := n.whole.foldl Significand.addWhole ⟨0, 0, 0, false⟩
  match n.fraction, n.exponent with
  | none, none =>
    if s.full then return .double (← scaledDouble n.negative s.value s.dropped)
    else if !n.negative then return .integer s.value
    else if 1 ≤ s.value ∧ s.value ≤ Nat.pow 2 63 then return .integer (-(s.value : Int))
    else return .double (-s.value.toUInt64.toFloat)
  | fraction, exponent =>
    let s := (fraction.getD []).foldl Significand.addPlace { s with full := false }
    let start : Int := (s.dropped : Int) - s.places
    match exponent with
    | none => return .double (← scaledDouble n.negative s.value start)
    | some (negative, ds) =>
      let size := ds.foldl (fun acc c => acc * 10 + digitValue c) 0
      if exponentLimit < size then
        if s.value ≠ 0 ∧ !negative then throw .numberTooLarge
        else return .double (if n.negative then -0.0 else 0.0)
      else
        let power := if negative then start - size else start + size
        return .double (← scaledDouble n.negative s.value power)

/-- A number whose value is wanted. -/
def scanNumber (cs : List Char) : Except Fault (After Number) :=
  match scanNumeral cs with
  | .error .atEnd => .error (.ended .value)
  | .error .inside => .error .badNumber
  | .ok (numeral, rest) => numeral.number.map (·, rest)

/-- Passes over a number. -/
def passNumber (cs : List Char) : Except Fault (List Char) :=
  match scanNumeral cs with
  | .error _ => .error .badNumber
  | .ok (_, rest) => .ok rest

/-- What the text starts with, as a message names it.  Scalars are read to the end first, so a fault
    inside one comes before the complaint about its sort. -/
def scanFound (cs : List Char) : Except Fault Found :=
  match spaced cs with
  | [] => .error (.ended .value)
  | c :: rest =>
    if c = 'n' then (passLiteral ['u', 'l', 'l'] rest).map fun _ => .null
    else if c = 't' then (passLiteral ['r', 'u', 'e'] rest).map fun _ => .bool true
    else if c = 'f' then (passLiteral ['a', 'l', 's', 'e'] rest).map fun _ => .bool false
    else if c = '"' then (scanString rest).map fun (s, _) => .string (String.ofList s)
    else if c = '[' then .ok .list
    else if c = '{' then .ok .object
    else if c = '-' ∨ c.isDigit then (scanNumber (c :: rest)).map fun (n, _) => .number n
    else .error .expectedValue

end DocIndex.Json
