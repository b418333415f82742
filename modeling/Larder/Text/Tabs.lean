import Larder.Text.Cells
import Larder.Text.Split

/-!
# Larder — tabs

Tab stops stand every eight cells. A tab becomes one space, and as many more as it takes to reach
the next tab stop. As every tab ends at a tab stop, what stands between two tabs can be measured by
itself.
-/

namespace Larder.Text

/-- The distance of two tab stops, in cells. -/
def tabStop : Nat := 8

/-- A part of a line that a tab ends, filled with spaces up to the next tab stop. -/
def column (part : List Char) : List Char :=
  part ++ ' ' :: List.replicate ((tabStop - cells (part ++ [' ']) % tabStop) % tabStop) ' '

/-- The parts of a line between its tabs, all but the last filled up. -/
def expandParts : List (List Char) → List Char
  | [] => []
  | [last] => last
  | part :: rest => column part ++ expandParts rest

/-- A line with its tabs replaced by spaces. -/
def expandLine (line : List Char) : List Char := expandParts (splitOn '\t' line)

/-- A text with the tabs of each of its lines replaced by spaces. -/
def expandTabs (cs : List Char) : List Char := joinWith '\n' ((splitOn '\n' cs).map expandLine)

end Larder.Text
