/-
  BLANKS.

  A blank is a character of the Unicode property White_Space.  The set is small enough to be written
  out.  It holds the line separators and the no-break space; it does not hold the zero-width space,
  the byte order mark or the Mongolian vowel separator.

  `trim` removes the blanks at both ends of a text and nothing else.
-/
namespace DocIndex.Text

/-- Is the character white space? -/
def isBlank (c : Char) : Bool :=
  let n := c.toNat
  (0x9 ≤ n && n ≤ 0xD) || n == 0x20 || n == 0x85 || n == 0xA0 || n == 0x1680 ||
    (0x2000 ≤ n && n ≤ 0x200A) || n == 0x2028 || n == 0x2029 || n == 0x202F || n == 0x205F ||
    n == 0x3000

/-- The text without the blanks it ends with. -/
def trimEnd (cs : List Char) : List Char := (cs.reverse.dropWhile isBlank).reverse

/-- The text without the blanks at its two ends. -/
def trim (cs : List Char) : List Char := trimEnd (cs.dropWhile isBlank)

end DocIndex.Text
