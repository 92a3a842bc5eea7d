/-
  QUOTED TEXT.

  A text between double quotes, written so that it can be read: the quote and the backslash get a
  backslash, the four usual controls their letter, and a character without a shape of its own is
  shown by its code in braces, as in \u{200b}.  An apostrophe is left alone.
-/
import DocIndex.Text.Hidden

namespace DocIndex.Text

/-- How one character is written inside quotes. -/
def quotedChar (c : Char) : List Char :=
  if c = '"' then ['\\', '"']
  else if c = '\\' then ['\\', '\\']
  else if c = '\n' then ['\\', 'n']
  else if c = '\r' then ['\\', 'r']
  else if c = '\t' then ['\\', 't']
  else if c.toNat = 0 then ['\\', '0']
  else if isHidden c then ['\\', 'u', '{'] ++ Nat.toDigits 16 c.toNat ++ ['}']
  else [c]

/-- A text in double quotes. -/
def quoted (s : String) : String :=
  String.ofList ('"' :: s.toList.flatMap quotedChar ++ ['"'])

end DocIndex.Text
