import Larder.Text.CellTable
import Larder.Text.Ranges

/-!
# Larder — cells of a terminal

How many cells of a terminal a text takes. Each character has a width of its own, with two
exceptions: a zero-width joiner hides the character after it, and an emoji selector widens the
character that was shown before it, once, if that character has a wide emoji form.
-/

namespace Larder.Text

/-- The character that joins its neighbours into one emoji. -/
def joiner : Char := '\u200D'

/-- The character that asks for the emoji form of the one before it. -/
def emojiSelector : Char := '\uFE0F'

/-- The cells that a character takes by itself. Control characters take none. -/
def charCells (c : Char) : Nat :=
  let n := c.toNat
  if n < 32 || (127 ≤ n && n < 160) || inRanges zeroWidthRanges c then 0
  else if inRanges wideRanges c then 2
  else 1

/-- The cells that an emoji selector adds to the last character that was shown. -/
def selectorCells (shown : Option Char) : Nat :=
  match shown with
  | some c => if inRanges emojiRanges c then 1 else 0
  | none => 0

/-- The cells of a text, where `shown` is the last character before it that a selector can
widen. -/
def cellsFrom (shown : Option Char) : List Char → Nat
  | [] => 0
  | [c] =>
    if c = joiner then 0 else if c = emojiSelector then selectorCells shown else charCells c
  | c :: d :: rest =>
    if c = joiner then cellsFrom shown rest
    else if c = emojiSelector then selectorCells shown + cellsFrom none (d :: rest)
    else charCells c + cellsFrom (if charCells c = 0 then shown else some c) (d :: rest)

/-- The cells of a text. -/
def cells (cs : List Char) : Nat := cellsFrom none cs

end Larder.Text
