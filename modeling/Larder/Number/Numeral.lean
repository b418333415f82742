/-!
# Larder — numerals

How a number is read: a sign, digits, and after them perhaps a fraction and an exponent. With
either of the two the number is real and rounded to the closest double, a tie to the even one;
otherwise it is whole and exact.
-/

namespace Larder

/-- A number that has been read. -/
inductive Numeral where
  | whole (n : Int)
  | real (x : Float)
  deriving DecidableEq, Repr

namespace Numeral

/-- The number that decimal digits spell. -/
def natOf (digits : List Char) : Nat := Nat.ofDigitChars 10 digits 0

/-- A number with its sign. -/
def signed (negative : Bool) (n : Nat) : Int := if negative then -n else n

/-- The infinite real number. -/
def infinity : Float := Float.ofBits 0x7FF0000000000000

/-- The real number closest to `n * 10 ^ e`. Powers of ten that no double comes near are not
computed. -/
def magnitude (n : Nat) (e : Int) : Float :=
  let place := (Nat.toDigits 10 n).length + e
  if n = 0 ∨ place < -330 then 0
  else if 310 < place then infinity
  else Float.ofScientific n (e < 0) e.natAbs

/-- The real number closest to a signed decimal. -/
def realOf (negative : Bool) (n : Nat) (e : Int) : Float :=
  if negative then -magnitude n e else magnitude n e

/-- The exponent that a text spells, from its letter on; without a letter it is zero. -/
def exponentOf : List Char → Int
  | [] => 0
  | _ :: '-' :: digits => -(natOf digits)
  | _ :: '+' :: digits => natOf digits
  | _ :: digits => natOf digits

/-- The number that a text without a sign spells. -/
def ofUnsigned (negative : Bool) (cs : List Char) : Numeral :=
  let whole := cs.takeWhile Char.isDigit
  match cs.dropWhile Char.isDigit with
  | [] => .whole (signed negative (natOf whole))
  | '.' :: rest =>
    let fraction := rest.takeWhile Char.isDigit
    .real (realOf negative (natOf (whole ++ fraction))
      (exponentOf (rest.dropWhile Char.isDigit) - fraction.length))
  | rest => .real (realOf negative (natOf whole) (exponentOf rest))

/-- The number that a text spells. -/
def ofChars : List Char → Numeral
  | '-' :: cs => ofUnsigned true cs
  | cs => ofUnsigned false cs

end Numeral

end Larder
