/-!
# Larder — lines of text

A text is cut into lines at every line boundary: line feed, carriage return (with the line feed
after it, if there is one), vertical tab, form feed, the file, group and record separators, the
next-line control and the line and paragraph separators. A boundary at the end opens no further
line.
-/

namespace Larder.Text

/-- A character that ends a line. -/
def isLineBreak (c : Char) : Bool :=
  let n := c.toNat
  (10 ≤ n && n ≤ 13) || (28 ≤ n && n ≤ 30) || n == 0x85 || n == 0x2028 || n == 0x2029

/-- The lines of a text whose current line has begun with `line` (in reverse). -/
def splitLinesFrom (line : List Char) : List Char → List (List Char)
  | [] => if line = [] then [] else [line.reverse]
  | '\r' :: '\n' :: rest => line.reverse :: splitLinesFrom [] rest
  | c :: rest =>
    if isLineBreak c then line.reverse :: splitLinesFrom [] rest
    else splitLinesFrom (c :: line) rest

/-- The lines of a text, without their ends. -/
def splitLines (s : String) : List String :=
  (splitLinesFrom [] s.toList).map String.ofList

end Larder.Text
