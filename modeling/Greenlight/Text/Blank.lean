/-! # Blank characters and stripping

A blank is a character that separates words: the spaces of every script, the tabs and line ends, and
the four information separators. Stripping cuts the blanks off the ends of a text. -/

namespace Greenlight.Text

/-- Blanks separate words and are cut off at the ends of a text. -/
def isBlank (c : Char) : Bool :=
  let n := c.toNat
  (9 ≤ n && n ≤ 13) || (28 ≤ n && n ≤ 32) || n == 0x85 || n == 0xA0 || n == 0x1680 ||
    (0x2000 ≤ n && n ≤ 0x200A) || n == 0x2028 || n == 0x2029 || n == 0x202F || n == 0x205F ||
    n == 0x3000

/-- The text from its first character that is not blank. -/
def stripStartChars (cs : List Char) : List Char := cs.dropWhile isBlank

/-- The text up to its last character that is not blank. -/
def stripEndChars (cs : List Char) : List Char := (cs.reverse.dropWhile isBlank).reverse

/-- The text without the blanks at its ends. -/
def stripChars (cs : List Char) : List Char := stripEndChars (stripStartChars cs)

/-- The text without the blanks at its ends. -/
def strip (s : String) : String := String.ofList (stripChars s.toList)

/-- The text without the blanks at its end. -/
def stripEnd (s : String) : String := String.ofList (stripEndChars s.toList)

theorem toList_strip (s : String) : (strip s).toList = stripChars s.toList := by
  simp [strip]

end Greenlight.Text
