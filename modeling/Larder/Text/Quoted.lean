import Larder.Text.Hex
import Larder.Text.Printable

/-!
# Larder — quoted text

How messages quote a text: between single quotes, or between double quotes when it holds a single
quote and no double one. The backslash and the quote in use are escaped by a backslash, line
breaks, carriage returns and tabs by a letter, and every other character without a visible form by
its code point.
-/

namespace Larder.Text

/-- The quote that surrounds a text. -/
def quoteMark (cs : List Char) : Char :=
  if '\'' ∈ cs ∧ '"' ∉ cs then '"' else '\''

/-- A character as it stands between quotes. -/
def quoteChar (mark c : Char) : List Char :=
  if c = '\\' || c = mark then ['\\', c]
  else if c = '\n' then ['\\', 'n']
  else if c = '\r' then ['\\', 'r']
  else if c = '\t' then ['\\', 't']
  else if isPrintable c then [c]
  else if c.toNat < 0x100 then '\\' :: 'x' :: hex 2 c.toNat
  else if c.toNat < 0x10000 then '\\' :: 'u' :: hex 4 c.toNat
  else '\\' :: 'U' :: hex 8 c.toNat

/-- A text between quotes. -/
def quote (s : String) : String :=
  let cs := s.toList
  let mark := quoteMark cs
  String.ofList (mark :: cs.flatMap (quoteChar mark) ++ [mark])

end Larder.Text
