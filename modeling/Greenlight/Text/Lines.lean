/-! # Lines

A text is cut into lines at every line end: the line feed, the carriage return, the two together as
one, the vertical tab, the form feed, three of the information separators, the next-line control and
the line and paragraph separators. A line end closes its line, so none follows the last one. -/

namespace Greenlight.Text

/-- Characters that end a line. -/
def isLineEnd (c : Char) : Bool :=
  let n := c.toNat
  (10 ≤ n && n ≤ 13) || (28 ≤ n && n ≤ 30) || n == 0x85 || n == 0x2028 || n == 0x2029

/-- Lines of a text, `line` being the part of the current line already passed, last character first. -/
def linesFrom (line : List Char) : List Char → List (List Char)
  | [] => if line.isEmpty then [] else [line.reverse]
  | '\r' :: '\n' :: rest => line.reverse :: linesFrom [] rest
  | c :: rest => if isLineEnd c then line.reverse :: linesFrom [] rest else linesFrom (c :: line) rest

/-- The lines of a text, without their line ends. -/
def lines (cs : List Char) : List (List Char) := linesFrom [] cs

/-- A text whose line ends of two characters are line feeds. -/
def shortenLineEnds : List Char → List Char
  | '\r' :: '\n' :: rest => '\n' :: shortenLineEnds rest
  | c :: rest => c :: shortenLineEnds rest
  | [] => []

end Greenlight.Text
